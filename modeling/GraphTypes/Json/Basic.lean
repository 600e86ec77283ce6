/-!
# JSON values

JSON as a configuration text holds it. Objects keep their members in order, with repetitions, since
a repeated key can be an error. A value is kept even where it cannot be used, because whether it
matters depends on where it stands: a number too large for a double, or a text with half of a
surrogate pair, does no harm below a key that nobody knows.
-/

namespace GraphTypes

/-- A JSON value. -/
inductive Json where
  | null
  | bool (value : Bool)
  /-- A number, and whether it is within the range of doubles. -/
  | number (inRange : Bool)
  /-- A text, or nothing if its escapes leave half of a surrogate pair. -/
  | string (text : Option String)
  | array (items : List Json)
  /-- Members in order. A key is like a text. -/
  | object (members : List (Option String × Json))
  deriving Repr

namespace Json

mutual

/-- How deep arrays and objects are nested in a value. -/
def depth : Json → Nat
  | array items => 1 + depthItems items
  | object members => 1 + depthMembers members
  | _ => 0

/-- The greatest depth of several values. -/
def depthItems : List Json → Nat
  | [] => 0
  | item :: rest => max item.depth (depthItems rest)

/-- The greatest depth of the values of several members. -/
def depthMembers : List (Option String × Json) → Nat
  | [] => 0
  | (_, value) :: rest => max value.depth (depthMembers rest)

end

mutual

/-- Whether all texts, keys and numbers of a value are usable. -/
def isUsable : Json → Bool
  | null | bool _ => true
  | number inRange => inRange
  | string text => text.isSome
  | array items => areUsable items
  | object members => membersUsable members

/-- Whether several values are usable. -/
def areUsable : List Json → Bool
  | [] => true
  | item :: rest => item.isUsable && areUsable rest

/-- Whether the keys and values of several members are usable. -/
def membersUsable : List (Option String × Json) → Bool
  | [] => true
  | (key, value) :: rest => key.isSome && value.isUsable && membersUsable rest

end

end Json

end GraphTypes
