import GraphTypes.Operation.Basic
import GraphTypes.Sdl.Basic

/-!
# Faults of a schema

What can be wrong with the types that a schema text declares. `firstFault` goes through the rules in
a fixed order and yields the first one that is broken: no type is defined twice, the root types are
objects, and every name that a type mentions is declared as a type of the right kind.

`SchemaError` also holds what goes wrong later for the same reason, when an operation document or
the generated code needs a type that is not there.
-/

namespace GraphTypes

open Sdl

/-- Scalars that every schema has without declaring them. -/
def builtinScalars : List String := ["ID", "String", "Int", "Float", "Boolean"]

/-- Whether a name is that of a scalar that needs no declaration. -/
def isBuiltinScalar (name : String) : Bool := builtinScalars.contains name

/-- Whether a name is of the form reserved for reflection, such as `__Type`. -/
def isReflection (name : String) : Bool := ['_', '_'].isPrefixOf name.toList

/-- What a schema, or a document read against it, lacks. -/
inductive SchemaError where
  | duplicateType (name : String)
  /-- A root type is declared, but not as an object. -/
  | rootNotObject (name : String)
  /-- Something in an `implements` list is declared, but not as an interface. -/
  | notInterface (owner interface : String)
  /-- A member of a union is declared, but not as an object. -/
  | memberNotObject (union member : String)
  /-- A name is used at some place and declared nowhere. -/
  | unknownType (name place : String)
  /-- An operation has no root type to start from. -/
  | missingRoot (kind : Operation.OperationKind)
  /-- A type that the generated code mentions has no identifier. -/
  | noIdentifier (name : String)
  deriving DecidableEq, Repr

/-- The wording of an error. -/
def SchemaError.message : SchemaError → String
  | duplicateType name => "type `" ++ name ++ "` is defined more than once"
  | rootNotObject name => "root operation type `" ++ name ++ "` must be an object type"
  | notInterface owner interface =>
    "`" ++ owner ++ "` implements `" ++ interface ++ "`, which is not an interface"
  | memberNotObject union member =>
    "union `" ++ union ++ "` member `" ++ member ++ "` must be an object type"
  | unknownType name place => "unknown type `" ++ name ++ "` referenced from `" ++ place ++ "`"
  | missingRoot kind => "schema has no " ++ kind.keyword ++ " root type"
  | noIdentifier name => "unknown type `" ++ name ++ "`"

namespace Schema

/-- The type declared under a name. -/
def lookup? (types : List TypeDef) (name : String) : Option TypeDef :=
  types.find? (·.name == name)

/-! ### The rules -/

/-- The first type whose name an earlier one, or one of `seen`, has already. -/
def duplicateFault (seen : List String) : List TypeDef → Option SchemaError
  | [] => none
  | d :: rest =>
    if seen.contains d.name then some (.duplicateType d.name)
    else duplicateFault (d.name :: seen) rest

/-- A name must be declared as a type of one kind. -/
def kindFault (types : List TypeDef) (kind : Kind) (wrongKind unknown : SchemaError)
    (name : String) : Option SchemaError :=
  match lookup? types name with
  | some d => if d.kind = kind then none else some wrongKind
  | none => some unknown

/-- A root type must be an object. -/
def rootFault (types : List TypeDef) (name : String) : Option SchemaError :=
  kindFault types .object (.rootNotObject name) (.unknownType name "schema") name

/-- What a type implements must be an interface. -/
def interfaceFault (types : List TypeDef) (owner interface : String) : Option SchemaError :=
  kindFault types .interface (.notInterface owner interface) (.unknownType interface owner)
    interface

/-- A member of a union must be an object. -/
def memberFault (types : List TypeDef) (union member : String) : Option SchemaError :=
  kindFault types .object (.memberNotObject union member) (.unknownType member union) member

/-- A reference must end in a declared type or a built-in scalar. -/
def referenceFault (types : List TypeDef) (place : String) (type : TypeExpr) : Option SchemaError :=
  if isBuiltinScalar type.innermost || (lookup? types type.innermost).isSome then none
  else some (.unknownType type.innermost place)

/-- The first faulty reference of arguments or input fields. -/
def inputFault (types : List TypeDef) (owner : String) (values : List InputValue) :
    Option SchemaError :=
  values.findSome? fun v => referenceFault types (owner ++ "." ++ v.name) v.type

/-- The first faulty reference of a field: its own type, then those of its arguments. -/
def fieldFault (types : List TypeDef) (owner : String) (field : Field) : Option SchemaError :=
  let place := owner ++ "." ++ field.name
  (referenceFault types place field.type).or (inputFault types place field.arguments)

/-- The first fault of a type. -/
def typeFault (types : List TypeDef) (d : TypeDef) : Option SchemaError :=
  match d.shape with
  | .scalar | .enum _ => none
  | .object interfaces fields | .interface interfaces fields =>
    (interfaces.findSome? (interfaceFault types d.name)).or
      (fields.findSome? (fieldFault types d.name))
  | .union members => members.findSome? (memberFault types d.name)
  | .inputObject fields => inputFault types d.name fields

/-- The first fault of a schema: duplicates, then the root types, then the types in order. -/
def firstFault (types : List TypeDef) (roots : Roots) : Option SchemaError :=
  ((duplicateFault [] types).or (roots.names.findSome? (rootFault types))).or
    (types.findSome? (typeFault types))

end Schema

end GraphTypes
