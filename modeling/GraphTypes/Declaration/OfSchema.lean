import GraphTypes.Declaration.Basic
import GraphTypes.Declaration.TypeNames
import GraphTypes.Error
import GraphTypes.Introspection.Closure
import GraphTypes.Introspection.Meta

/-!
# Declarations of a schema

Each type of a schema is declared once, in the order of the schema, and objects and interfaces are
followed by a record for the arguments of each field that takes any. The types of the schema itself
come first; the introspection types that are asked for follow.
-/

namespace GraphTypes

open Config Name Sdl TypeScript

/-- What the declarations of one schema are made from. -/
structure DeclarationContext where
  schema : Schema
  names : TypeNames
  settings : Settings

namespace DeclarationContext

variable (c : DeclarationContext)

/-- How a type is referred to. -/
def refer (type : String) : String := c.names.refer c.settings type

/-! ### Members -/

/-- A record member: what may be null is marked optional unless the settings say otherwise. -/
def member (kind : MemberKind) (description : Option String) (name : String) (type : TypeExpr) :
    Member :=
  { description, name
    readonly := c.settings.immutableTypes
    optional := type.isNullable && c.settings.marksOptional kind
    type := Ty.ofTypeExpr c.settings.immutableTypes c.refer type }

/-- The members for fields of an object or an interface. -/
def fieldMembers (fields : List Field) : List Member :=
  fields.map fun f => c.member .field f.description f.name f.type

/-- The members for arguments or for fields of an input object. -/
def inputMembers (kind : MemberKind) (values : List InputValue) : List Member :=
  values.map fun v => c.member kind v.description v.name v.type

/-- The members of an enum: the values in order, each under an identifier of its own. -/
def enumMembers (values : List EnumValue) : List EnumMember :=
  let wanted := values.map fun v => c.settings.enumValueNaming.apply v.name
  (values.zip (Registry.empty.claimAll wanted).1).map fun (v, identifier) =>
    { description := v.description, identifier, value := v.name }

/-! ### Types -/

/-- What is declared about a type. An interface stands for the objects that implement it; one that
no object implements is a record of its own fields. -/
def body (d : TypeDef) : DeclarationBody :=
  match d.shape with
  | .scalar => .alias (c.settings.scalarType d.name)
  | .enum values =>
    match c.settings.enumStyle with
    | .stringUnion => .literals (values.map (·.name))
    | .native => .enum false (c.enumMembers values)
    | .const => .enum true (c.enumMembers values)
  | .object _ fields => .record (c.fieldMembers fields)
  | .interface _ fields =>
    match c.schema.implementations d.name with
    | [] => .record (c.fieldMembers fields)
    | members => .sum (members.map c.refer)
  | .union members => .sum (members.map c.refer)
  | .inputObject fields => .record (c.inputMembers .inputValue fields)

/-- The declaration of a type. -/
def declare (d : TypeDef) : Declaration :=
  { name := d.name
    kind := .type d.kind
    identifier := c.refer d.name
    description := d.description
    body := c.body d }

/-! ### Arguments -/

/-- The identifier wanted for the arguments of a field. -/
def argumentsName (owner : String) (field : Field) : String :=
  c.settings.typeNaming.apply field.name ++ c.refer owner ++ "Args"

/-- The record of the arguments of a field, under a given identifier. -/
def declareArguments (identifier : String) (field : Field) : Declaration :=
  { name := identifier
    kind := .arguments
    identifier
    description := none
    body := .record (c.inputMembers .argument field.arguments) }

/-- The fields of a type that take arguments. -/
def fieldsWithArguments (d : TypeDef) : List Field := d.fields.filter (!·.arguments.isEmpty)

/-- The argument records of a type, under identifiers that are claimed in order. -/
def argumentRecords (d : TypeDef) (r : Registry) : List Declaration × Registry :=
  let fields := fieldsWithArguments d
  let (identifiers, r) := r.claimAll (fields.map (c.argumentsName d.name))
  ((identifiers.zip fields).map fun (identifier, field) => c.declareArguments identifier field, r)

/-- The declarations of several types, each followed by its argument records. -/
def declareAll : List TypeDef → Registry → List Declaration × Registry
  | [], r => ([], r)
  | d :: rest, r =>
    let (records, r) := c.argumentRecords d r
    let (others, r) := declareAll rest r
    (c.declare d :: records ++ others, r)

/-! ### Which types are referred to -/

/-- The types that the declaration of a type refers to, itself included. -/
def mentionedBy (d : TypeDef) : List String :=
  d.name :: match d.shape with
    | .scalar | .enum _ => []
    | .object _ fields => fields.map (·.type.innermost)
    | .interface _ fields =>
      match c.schema.implementations d.name with
      | [] => fields.map (·.type.innermost)
      | members => members
    | .union members => members
    | .inputObject fields => fields.map (·.type.innermost)

/-- The types that the argument records of a type refer to. -/
def mentionedByArguments (d : TypeDef) : List String :=
  (fieldsWithArguments d).flatMap fun f => f.arguments.map (·.type.innermost)

/-- The types that the declarations of several types refer to. -/
def mentioned (types : List TypeDef) : List String :=
  types.flatMap fun d => c.mentionedBy d ++ mentionedByArguments d

end DeclarationContext

/-! ### The declarations of a schema -/

/-- Which types of a schema are declared: those of admitted names, save for built-in scalars, and of
these the enums alone if nothing else is asked for. -/
def declaredTypes (settings : Settings) (admits : String → Bool) (s : Schema) : List TypeDef :=
  s.types.filter fun d =>
    !isBuiltinScalar d.name && admits d.name && (!settings.enumsOnly || d.kind == .enum)

/-- Which introspection types are declared: all of them, or those that the documents need. -/
def admittedIntrospection (s : Schema) (documents : List Operation.Document) (settings : Settings) :
    Except SchemaError (String → Bool) :=
  if settings.includeIntrospectionTypes then .ok fun _ => true
  else return (← Introspection.neededTypes s Introspection.metaSchema documents).contains

/-- All declarations for a schema: those of its own types, then those of introspection types. -/
def declarations (s : Schema) (documents : List Operation.Document) (settings : Settings) :
    Except SchemaError (List Declaration) := do
  let reflect := Introspection.metaSchema
  let admits ← admittedIntrospection s documents settings
  let (names, r) := TypeNames.assign settings.typeNaming s.types baseRegistry
  let (reflectNames, r) := TypeNames.assign settings.typeNaming reflect.types r
  let own : DeclarationContext := ⟨s, names, settings⟩
  let reflected : DeclarationContext := ⟨reflect, reflectNames, settings⟩
  let ownTypes := declaredTypes settings (!isReflection ·) s
  let reflectTypes := declaredTypes settings admits reflect
  names.requireAll (own.mentioned ownTypes)
  reflectNames.requireAll (reflected.mentioned reflectTypes)
  let (ownDeclarations, r) := own.declareAll ownTypes r
  let (reflectDeclarations, _) := reflected.declareAll reflectTypes r
  return ownDeclarations ++ reflectDeclarations

end GraphTypes
