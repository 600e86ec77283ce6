import GraphTypes.Schema.Basic

/-!
# The introspection schema

The types in which a GraphQL service describes its own schema, as a schema of their own. Its fields
are described by name and type; those that take arguments take the flag `includeDeprecated`.
-/

namespace GraphTypes.Introspection

open Sdl

/-- A field without arguments. -/
def plainField (name : String) (type : TypeExpr) : Field :=
  { description := none, name, arguments := [], type }

/-- A field whose list can be asked for with or without what is deprecated. -/
def deprecableField (name : String) (type : TypeExpr) : Field :=
  { description := none, name
    arguments := [{ description := none, name := "includeDeprecated", type := .named "Boolean" }]
    type }

/-- An object of the introspection schema. -/
def metaObject (name : String) (fields : List Field) : TypeDef :=
  { description := none, name, shape := .object [] fields }

/-- An enum of the introspection schema. -/
def metaEnum (name : String) (values : List String) : TypeDef :=
  { description := none, name
    shape := .enum (values.map fun value => { description := none, name := value }) }

/-- A reference to a type that is never null. -/
def required (name : String) : TypeExpr := .nonNull (.named name)

/-- A list, possibly null, of items that are not. -/
def listOf (name : String) : TypeExpr := .list (required name)

/-- The types of the introspection schema. -/
def metaTypes : List TypeDef :=
  [metaObject "__Schema"
      [plainField "description" (.named "String"),
        plainField "types" (.nonNull (listOf "__Type")),
        plainField "queryType" (required "__Type"),
        plainField "mutationType" (.named "__Type"),
        plainField "subscriptionType" (.named "__Type"),
        plainField "directives" (.nonNull (listOf "__Directive"))],
    metaObject "__Type"
      [plainField "kind" (required "__TypeKind"),
        plainField "name" (.named "String"),
        plainField "description" (.named "String"),
        plainField "specifiedByURL" (.named "String"),
        deprecableField "fields" (listOf "__Field"),
        plainField "interfaces" (listOf "__Type"),
        plainField "possibleTypes" (listOf "__Type"),
        deprecableField "enumValues" (listOf "__EnumValue"),
        deprecableField "inputFields" (listOf "__InputValue"),
        plainField "ofType" (.named "__Type")],
    metaEnum "__TypeKind"
      ["SCALAR", "OBJECT", "INTERFACE", "UNION", "ENUM", "INPUT_OBJECT", "LIST", "NON_NULL"],
    metaObject "__Field"
      [plainField "name" (required "String"),
        plainField "description" (.named "String"),
        deprecableField "args" (.nonNull (listOf "__InputValue")),
        plainField "type" (required "__Type"),
        plainField "isDeprecated" (required "Boolean"),
        plainField "deprecationReason" (.named "String")],
    metaObject "__InputValue"
      [plainField "name" (required "String"),
        plainField "description" (.named "String"),
        plainField "type" (required "__Type"),
        plainField "defaultValue" (.named "String"),
        plainField "isDeprecated" (required "Boolean"),
        plainField "deprecationReason" (.named "String")],
    metaObject "__EnumValue"
      [plainField "name" (required "String"),
        plainField "description" (.named "String"),
        plainField "isDeprecated" (required "Boolean"),
        plainField "deprecationReason" (.named "String")],
    metaObject "__Directive"
      [plainField "name" (required "String"),
        plainField "description" (.named "String"),
        plainField "locations" (.nonNull (listOf "__DirectiveLocation")),
        deprecableField "args" (.nonNull (listOf "__InputValue")),
        plainField "isRepeatable" (required "Boolean")],
    metaEnum "__DirectiveLocation"
      ["QUERY", "MUTATION", "SUBSCRIPTION", "FIELD", "FRAGMENT_DEFINITION", "FRAGMENT_SPREAD",
        "INLINE_FRAGMENT", "VARIABLE_DEFINITION", "SCHEMA", "SCALAR", "OBJECT", "FIELD_DEFINITION",
        "ARGUMENT_DEFINITION", "INTERFACE", "UNION", "ENUM", "ENUM_VALUE", "INPUT_OBJECT",
        "INPUT_FIELD_DEFINITION"]]

/-- The introspection schema. No operation starts from it. -/
def metaSchema : Schema where
  types := metaTypes
  roots := {}
  faultless := by decide +kernel

end GraphTypes.Introspection
