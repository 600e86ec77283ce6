import GraphTypes.Json.Token

/-!
# Reading JSON

The grammar of JSON over its tokens. Arrays and objects are read element by element; after a comma
an element must follow, so there is no trailing comma. Every reader gives back a `Rest` of its
tokens, which is shorter than they were, and so the recursion ends: the number of tokens left falls,
or stays the same on the step from a list to its first element.
-/

namespace GraphTypes.Json

open Token

/-- What is left when something is taken off the front of a list of tokens. -/
abbrev Rest (ts : List Token) := { rest : List Token // rest.length < ts.length }

/-- Takes a mark off the front. -/
def dropMark? (c : Char) : (ts : List Token) → Option (Rest ts)
  | .mark d :: rest => if d = c then some ⟨rest, Nat.lt_succ_self _⟩ else none
  | _ => none

mutual

/-- Reads a value. -/
def readValue (ts : List Token) : Option (Json × Rest ts) :=
  match ts with
  | .leaf value :: rest => some (value, ⟨rest, Nat.lt_succ_self _⟩)
  | .mark c :: rest =>
    if c = '[' then
      match dropMark? ']' rest with
      | some ⟨after, h⟩ => some (array [], ⟨after, Nat.lt_succ_of_lt h⟩)
      | none =>
        (readItems rest).map fun (items, ⟨after, h⟩) => (array items, ⟨after, Nat.lt_succ_of_lt h⟩)
    else if c = '\x7b' then
      match dropMark? '\x7d' rest with
      | some ⟨after, h⟩ => some (object [], ⟨after, Nat.lt_succ_of_lt h⟩)
      | none =>
        (readMembers rest).map fun (members, ⟨after, h⟩) =>
          (object members, ⟨after, Nat.lt_succ_of_lt h⟩)
    else none
  | [] => none
termination_by (ts.length, 0)

/-- Reads the items of an array up to the closing bracket. There is at least one. -/
def readItems (ts : List Token) : Option (List Json × Rest ts) :=
  match readValue ts with
  | some (item, ⟨.mark c :: rest, h⟩) =>
    if c = ']' then some ([item], ⟨rest, Nat.lt_of_succ_lt h⟩)
    else if c = ',' then
      have shorter : rest.length < ts.length := Nat.lt_of_succ_lt h
      (readItems rest).map fun (items, ⟨after, h'⟩) =>
        (item :: items, ⟨after, Nat.lt_trans h' shorter⟩)
    else none
  | _ => none
termination_by (ts.length, 1)

/-- Reads the members of an object up to the closing brace. There is at least one. -/
def readMembers (ts : List Token) : Option (List (Option String × Json) × Rest ts) :=
  match ts with
  | .leaf (.string key) :: .mark colon :: rest =>
    if colon = ':' then
      match readValue rest with
      | some (value, ⟨.mark c :: after, h⟩) =>
        have shorter : after.length < rest.length + 2 := Nat.lt_add_right 2 (Nat.lt_of_succ_lt h)
        if c = '\x7d' then some ([(key, value)], ⟨after, shorter⟩)
        else if c = ',' then
          (readMembers after).map fun (members, ⟨after', h'⟩) =>
            ((key, value) :: members, ⟨after', Nat.lt_trans h' shorter⟩)
        else none
      | _ => none
    else none
  | _ => none
termination_by (ts.length, 1)

end

/-- The value that a text spells; none if the text is not JSON. -/
def ofText? (text : String) : Option Json := do
  match ← readValue (← tokens? text.toList) with
  | (value, ⟨[], _⟩) => return value
  | _ => failure

end GraphTypes.Json
