import GraphTypes.Config.Settings
import GraphTypes.Name.Registry
import GraphTypes.Schema.Basic

/-!
# Identifiers of types

Every type that a schema declares gets an identifier of its own: its name in the spelling asked for,
with a number if another type took that first. The table of these is made once, in the order of
declaration, and both kinds of generated code refer to types through it.
-/

namespace GraphTypes

open Name Sdl

/-- Names that generated code uses itself: a helper it declares, and globals of TypeScript. -/
def reservedNames : List String := ["Maybe", "Array", "ReadonlyArray", "Promise", "AsyncIterator"]

/-- The names in use before any type has an identifier. -/
def baseRegistry : Registry := Registry.empty.reserveAll reservedNames

/-- The identifiers of types, by the names of the types, in the order of declaration. -/
abbrev TypeNames := List (String × String)

namespace TypeNames

/-- Claims an identifier for each type. Built-in scalars get none, even if they are declared. -/
def assign (naming : Convention) : List TypeDef → Registry → TypeNames × Registry
  | [], r => ([], r)
  | d :: rest, r =>
    if isBuiltinScalar d.name then assign naming rest r
    else
      let (identifier, r) := r.claim (naming.apply d.name)
      let (names, r) := assign naming rest r
      ((d.name, identifier) :: names, r)

/-- The identifier of a type. -/
def identifier? (names : TypeNames) (type : String) : Option String := names.lookup type

/-- All identifiers, in the order of declaration. -/
def identifiers (names : TypeNames) : List String := names.map Prod.snd

/-- Whether generated code can refer to a type. -/
def covers (names : TypeNames) (type : String) : Bool :=
  isBuiltinScalar type || (names.identifier? type).isSome

/-- How generated code refers to a type: a built-in scalar by the TypeScript type that stands for
it, any other type by its identifier. -/
def refer (names : TypeNames) (settings : Config.Settings) (type : String) : String :=
  if isBuiltinScalar type then settings.scalarType type
  else (names.identifier? type).getD type

/-- All the given types must be covered; the first that is not is reported. -/
def requireAll (names : TypeNames) (types : List String) : Except SchemaError Unit :=
  match types.find? (!names.covers ·) with
  | some type => .error (.noIdentifier type)
  | none => .ok ()

end TypeNames

end GraphTypes
