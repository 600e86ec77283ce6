import GraphTypes.Config.Options
import GraphTypes.Config.Reference
import GraphTypes.Name.Convention

/-!
# Settings

A configuration that has been checked. `Options.resolve` makes it from options, or reports the first
thing that is wrong with them; everything the generators do depends on settings alone.
-/

namespace GraphTypes.Config

open GraphTypes.Name (Convention)

/-- The kinds of record members. -/
inductive MemberKind where
  | field
  | inputValue
  | argument
  deriving DecidableEq, Repr

/-- The flag for a kind of member. -/
def MemberFlags.get (flags : MemberFlags) : MemberKind → Bool
  | .field => flags.field
  | .inputValue => flags.inputValue
  | .argument => flags.argument

/-- How enums are declared. -/
inductive EnumStyle where
  /-- As `enum`. -/
  | native
  /-- As `const enum`. -/
  | const
  /-- As a union of string literals. -/
  | stringUnion
  deriving DecidableEq, Repr

/-- A configuration that has been checked. -/
structure Settings where
  scalars : Dictionary String
  defaultScalarType : String
  typeNaming : Convention
  enumValueNaming : Convention
  avoidOptionals : MemberFlags
  enumStyle : EnumStyle
  immutableTypes : Bool
  maybeValue : String
  /-- Whether declarations are exported. -/
  exported : Bool
  enumsOnly : Bool
  includeIntrospectionTypes : Bool
  mappers : Dictionary Reference
  defaultMapper : Option Reference
  contextType : Option Reference

namespace Settings

/-- Whether a member that may be null is marked optional. -/
def marksOptional (s : Settings) (kind : MemberKind) : Bool := !s.avoidOptionals.get kind

/-- The TypeScript type of a scalar: a configured one, that of a built-in scalar, or the default. -/
def scalarType (s : Settings) (name : String) : String :=
  match s.scalars.get? name with
  | some type => type
  | none =>
    match name with
    | "ID" | "String" => "string"
    | "Int" | "Float" => "number"
    | "Boolean" => "boolean"
    | _ => s.defaultScalarType

/-- What stands in front of a declaration. -/
def exportMark (s : Settings) : String := if s.exported then "export " else ""

/-- The line that declares `Maybe`. -/
def maybeDeclaration (s : Settings) : String :=
  s.exportMark ++ "type Maybe<T> = " ++ s.maybeValue ++ ";"

end Settings

/-! ### Checking options -/

/-- What is wrong with a configuration. -/
inductive ConfigError where
  | unknownConvention (name : String)
  /-- Enums are asked to be constant and to be types. -/
  | enumStylesCombined
  /-- The value of `Maybe<T>` does not mention `T`. -/
  | parameterUnused (template : String)
  | unknownSelection (value : String)
  | reference (cause : ReferenceError)
  | mapper (typeName : String) (cause : ReferenceError)
  deriving DecidableEq, Repr

/-- The wording of an error. -/
def ConfigError.message : ConfigError → String
  | unknownConvention name => "unknown naming convention: " ++ name
  | enumStylesCombined => "constEnums and enumsAsTypes cannot be combined"
  | parameterUnused template =>
    "maybeValue `" ++ template ++ "` must reference the type parameter T"
  | unknownSelection value => "invalid generateOnly value: " ++ value ++ ". must be enums"
  | reference cause => cause.message
  | mapper typeName cause => "mapper for `" ++ typeName ++ "`: " ++ cause.message

/-- Whether `T` stands alone somewhere in a text, not as a part of a longer identifier. The flag
says whether a character of an identifier comes directly before the text. -/
def mentionsParameterAfter (inside : Bool) : List Char → Bool
  | [] => false
  | c :: rest =>
    (c == 'T' && !inside && !rest.head?.any inIdentifier) ||
      mentionsParameterAfter (inIdentifier c) rest

/-- Whether a template mentions the type parameter `T`. -/
def mentionsParameter (template : String) : Bool := mentionsParameterAfter false template.toList

/-- The convention of a given name. -/
def convention (name : String) : Except ConfigError Convention :=
  match Convention.ofName? name with
  | some c => .ok c
  | none => .error (.unknownConvention name)

/-- The convention of a given name; pascal case if none is given. -/
def conventionOrDefault : Option String → Except ConfigError Convention
  | none => .ok .pascalCase
  | some name => convention name

/-- The conventions for types and for enum values. -/
def conventions : Option NamingOption → Except ConfigError (Convention × Convention)
  | none => .ok (.pascalCase, .pascalCase)
  | some (.uniform name) => do
    let c ← convention name
    return (c, c)
  | some (.perKind typeNames enumValues) => do
    return (← conventionOrDefault typeNames, ← conventionOrDefault enumValues)

/-- The style of enums. -/
def enumStyle (constEnums enumsAsTypes : Bool) : Except ConfigError EnumStyle :=
  match constEnums, enumsAsTypes with
  | true, true => .error .enumStylesCombined
  | true, false => .ok .const
  | false, true => .ok .stringUnion
  | false, false => .ok .native

/-- The value of `Maybe<T>`, which has to mention `T`. -/
def maybeTemplate (given : Option String) : Except ConfigError String :=
  let template := given.getD "T | null"
  if mentionsParameter template then .ok template else .error (.parameterUnused template)

/-- Whether enums alone are asked for. -/
def selectsEnums : Option String → Except ConfigError Bool
  | none => .ok false
  | some "enums" => .ok true
  | some other => .error (.unknownSelection other)

/-- Reads a mapper; an error names the type it is for. -/
def readMapper (typeName text : String) : Except ConfigError Reference :=
  (Reference.parse text).mapError (.mapper typeName)

/-- Reads a reference that may be missing. -/
def readReference : Option String → Except ConfigError (Option Reference)
  | none => .ok none
  | some text => ((Reference.parse text).mapError .reference).map some

/-- Checks options. The first fault counts, in the order: conventions, style of enums, `Maybe`,
selection, mappers by name of type, default mapper, type of the context. -/
def Options.resolve (o : Options) : Except ConfigError Settings := do
  let (typeNaming, enumValueNaming) ← conventions o.namingConvention
  let enumStyle ← enumStyle o.constEnums o.enumsAsTypes
  let maybeValue ← maybeTemplate o.maybeValue
  let enumsOnly ← selectsEnums o.generateOnly
  let mappers ← o.mappers.traverse readMapper
  let defaultMapper ← readReference o.defaultMapper
  let contextType ← readReference o.contextType
  return {
    scalars := o.scalars
    defaultScalarType := o.defaultScalarType.getD "any"
    typeNaming, enumValueNaming
    avoidOptionals := o.avoidOptionals
    enumStyle
    immutableTypes := o.immutableTypes
    maybeValue
    exported := !o.noExport
    enumsOnly
    includeIntrospectionTypes := o.includeIntrospectionTypes
    mappers, defaultMapper, contextType }

end GraphTypes.Config
