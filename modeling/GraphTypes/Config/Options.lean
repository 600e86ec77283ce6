import GraphTypes.Dictionary
import GraphTypes.Json.Reader

/-!
# Options

A configuration as it is written down, before anything in it is checked. `Options.ofJson?` reads it
from a JSON value: an object whose members are all optional, or an array of the same values in a
fixed order. Members with unknown names are passed over, those with known names occur at most once.
-/

namespace GraphTypes.Config

/-- A flag for each kind of record member. -/
structure MemberFlags where
  /-- Fields of objects and interfaces. -/
  field : Bool := false
  /-- Fields of input objects. -/
  inputValue : Bool := false
  /-- Arguments of fields. -/
  argument : Bool := false
  deriving DecidableEq, Repr

/-- The same flag for all kinds of members. -/
def MemberFlags.all (flag : Bool) : MemberFlags := ⟨flag, flag, flag⟩

/-- The names of conventions that a configuration asks for. -/
inductive NamingOption where
  /-- One convention for all names. -/
  | uniform (name : String)
  | perKind (typeNames enumValues : Option String)
  deriving DecidableEq, Repr

/-- A configuration as it is written down. -/
structure Options where
  /-- The TypeScript type of a scalar, by the name of the scalar. -/
  scalars : Dictionary String := .empty
  /-- The TypeScript type of the other scalars that a schema declares. -/
  defaultScalarType : Option String := none
  namingConvention : Option NamingOption := none
  /-- The members that are never marked optional. -/
  avoidOptionals : MemberFlags := {}
  constEnums : Bool := false
  enumsAsTypes : Bool := false
  immutableTypes : Bool := false
  /-- What `Maybe<T>` stands for, in terms of `T`. -/
  maybeValue : Option String := none
  noExport : Bool := false
  generateOnly : Option String := none
  includeIntrospectionTypes : Bool := false
  /-- References by the name of the GraphQL type that each replaces. -/
  mappers : Dictionary String := .empty
  /-- The reference that replaces types without one of their own. -/
  defaultMapper : Option String := none
  contextType : Option String := none
  deriving Repr

namespace Options

/-! ### Members of one kind -/

/-- A text. -/
def text? : Json → Option String
  | .string text => text
  | _ => none

/-- A text, or null for none. -/
def optionalText? : Json → Option (Option String)
  | .null => some none
  | j => (text? j).map some

/-- A flag. -/
def flag? : Json → Option Bool
  | .bool value => some value
  | _ => none

/-- Texts by name. Of several with one name the last counts. -/
def texts? : Json → Option (Dictionary String)
  | .object members => do
    let entries ← members.mapM fun (key, value) => do return (← key, ← text? value)
    return Dictionary.empty.insertAll entries
  | _ => none

/-! ### Members of an object -/

/-- The members of an object with names from a list, or of an array with the values in the order of
that list. No name of the list occurs twice, and an array has no further values. -/
def members? (names : List String) : Json → Option (List (String × Json))
  | .object members => do
    let members ← members.mapM fun (key, value) => return (← key, value)
    guard (names.all fun name => (members.filter (·.1 == name)).length ≤ 1)
    return members
  | .array items => do
    guard (items.length ≤ names.length)
    return names.zip items
  | _ => none

/-- Reads one member; `default` stands for a missing one. -/
def member {α : Type} (members : List (String × Json)) (name : String) (default : α)
    (read : Json → Option α) : Option α :=
  match members.lookup name with
  | some j => read j
  | none => some default

/-! ### Members with several forms

A member that may be given in several forms is taken in as a whole before its form is looked at, and
so must be usable throughout and not be nested too deep. -/

/-- How deep such a member may be nested: 127 levels with the object it stands in. -/
def maxDepth : Nat := 126

/-- A value that can be taken in as a whole. -/
def whole? (j : Json) : Option Json := if j.isUsable && j.depth ≤ maxDepth then some j else none

/-- Flags for members: one for all kinds, or one for each. -/
def memberFlags? (j : Json) : Option MemberFlags := do
  match ← whole? j with
  | .bool flag => return .all flag
  | j =>
    let members ← members? ["field", "inputValue", "argument"] j
    return {
      field := ← member members "field" false flag?
      inputValue := ← member members "inputValue" false flag?
      argument := ← member members "argument" false flag? }

/-- The names of conventions: one for all names, or an object with one for each kind. -/
def naming? (j : Json) : Option (Option NamingOption) := do
  match ← whole? j with
  | .null => return none
  | .string name => return some (.uniform (← name))
  | .array _ => failure
  | j =>
    let members ← members? ["typeNames", "enumValues"] j
    return some (.perKind
      (← member members "typeNames" none optionalText?)
      (← member members "enumValues" none optionalText?))

/-! ### The whole configuration -/

/-- The names of all options, in the order in which an array gives them. -/
def names : List String :=
  ["scalars", "defaultScalarType", "namingConvention", "avoidOptionals", "constEnums",
    "enumsAsTypes", "immutableTypes", "maybeValue", "noExport", "generateOnly",
    "includeIntrospectionTypes", "mappers", "defaultMapper", "contextType"]

/-- The options that a JSON value gives; none if an option is of the wrong form. -/
def ofJson? (j : Json) : Option Options := do
  let members ← members? names j
  return {
    scalars := ← member members "scalars" .empty texts?
    defaultScalarType := ← member members "defaultScalarType" none optionalText?
    namingConvention := ← member members "namingConvention" none naming?
    avoidOptionals := ← member members "avoidOptionals" {} memberFlags?
    constEnums := ← member members "constEnums" false flag?
    enumsAsTypes := ← member members "enumsAsTypes" false flag?
    immutableTypes := ← member members "immutableTypes" false flag?
    maybeValue := ← member members "maybeValue" none optionalText?
    noExport := ← member members "noExport" false flag?
    generateOnly := ← member members "generateOnly" none optionalText?
    includeIntrospectionTypes := ← member members "includeIntrospectionTypes" false flag?
    mappers := ← member members "mappers" .empty texts?
    defaultMapper := ← member members "defaultMapper" none optionalText?
    contextType := ← member members "contextType" none optionalText? }

/-- The options that a configuration text gives; none if it is not JSON or not of the right form. -/
def ofText? (text : String) : Option Options := do ofJson? (← Json.ofText? text)

end Options

end GraphTypes.Config
