import GraphTypes.Declaration.OfSchema
import GraphTypes.Resolver.Printer

/-!
# Resolver signatures of a schema

What resolvers yield, and what they belong to, is written with the identifiers of types, save where
the settings replace a type by one of the user's own: a mapper replaces the one type it is for, the
default mapper all objects, interfaces and unions that operations do not start from. Arguments are
never replaced.

Names are claimed in a fixed order, so that each is unlike all others: the shared names, the
imports, then the namespaces in the order of the schema. Inside a namespace names are claimed afresh
on top of those in use when it was opened.
-/

namespace GraphTypes

open Config Name Sdl TypeScript

/-- The reference that replaces a type, if there is one. -/
def replacement? (s : Schema) (settings : Settings) (type : String) : Option Reference :=
  if isBuiltinScalar type || !s.contains type then none
  else match settings.mappers.get? type with
    | some mapper => some mapper
    | none =>
      if (s.kind? type).any Kind.isComposite && !s.isRoot type then settings.defaultMapper
      else none

/-- What the resolver signatures of one schema are made from. -/
structure ResolverContext where
  schema : Schema
  names : TypeNames
  settings : Settings
  imports : Imports

namespace ResolverContext

variable (c : ResolverContext)

/-! ### Types and their replacements -/

/-- How a type is referred to where nothing replaces it. -/
def refer (type : String) : String := c.names.refer c.settings type

/-- What resolvers yield for a type. -/
def mapped (type : String) : String :=
  match replacement? c.schema c.settings type with
  | some reference => c.imports.expression reference (c.refer type)
  | none => c.refer type

/-- What the resolvers of a type belong to. There is nothing yet where an operation starts. -/
def parentOf (type : String) : String :=
  if c.schema.isRoot type && !c.settings.mappers.contains type then "\x7b\x7d" else c.mapped type

/-! ### Namespaces -/

/-- The record of the arguments of a field. -/
def argumentRecord (name : String) (f : Field) : ArgumentRecord :=
  let d : DeclarationContext := ⟨c.schema, c.names, c.settings⟩
  { name, members := d.inputMembers .argument f.arguments }

/-- The record of the arguments of a field, under a claimed name, if the field takes any. -/
def claimArguments (f : Field) (scope : Registry) : Option ArgumentRecord × Registry :=
  if f.arguments.isEmpty then (none, scope)
  else
    let (name, scope) := scope.claim (pascalCase f.name ++ "Args")
    (some (c.argumentRecord name f), scope)

/-- The resolver of a field, under a claimed name. -/
def fieldResolver (f : Field) (scope : Registry) : FieldResolver × Registry :=
  let (name, scope) := scope.claim (pascalCase f.name ++ "Resolver")
  let (arguments, scope) := c.claimArguments f scope
  ({ description := f.description
     field := f.name
     name
     result := Ty.ofTypeExpr c.settings.immutableTypes c.mapped f.type
     arguments }, scope)

/-- The resolvers of fields, whose names are claimed in the scope of the namespace. -/
def fieldResolvers : List Field → Registry → List FieldResolver
  | [], _ => []
  | f :: rest, scope =>
    let (resolver, scope) := c.fieldResolver f scope
    resolver :: fieldResolvers rest scope

/-- The namespace of an object. `r` holds the names in use outside. -/
def objectNamespace (d : TypeDef) (name : String) (r : Registry) : ObjectNamespace :=
  let (resolvers, scope) := r.claim "Resolvers"
  { type := d.name
    description := d.description
    name, resolvers
    parent := c.parentOf d.name
    isSubscription := c.schema.roots.subscription == some d.name
    fields := c.fieldResolvers d.fields scope }

/-- The namespace of an interface or a union with the given members. `r` holds the names in use
outside. -/
def abstractNamespace (d : TypeDef) (members : List String) (name : String) (r : Registry) :
    AbstractNamespace :=
  let (resolvers, scope) := r.claim "Resolvers"
  let (resolveType, _) := scope.claim "ResolveType"
  { type := d.name, name, resolvers, resolveType
    members := members.map fun member => (member, c.parentOf member) }

/-! ### Items -/

/-- The name wanted at the top level for what is declared for a type. -/
def itemName (d : TypeDef) : String :=
  c.refer d.name ++ if d.kind = .scalar then "ScalarConfig" else "Resolvers"

/-- What is declared for a type, under a claimed name. Enums and input objects have no resolvers. -/
def item? (d : TypeDef) (name : String) (r : Registry) : Option ResolverItem :=
  match d.shape with
  | .object .. => some (.object (c.objectNamespace d name r))
  | .interface .. =>
    some (.abstract (c.abstractNamespace d (c.schema.implementations d.name) name r))
  | .union members => some (.abstract (c.abstractNamespace d members name r))
  | .scalar =>
    some (.scalar
      { type := d.name, description := d.description, name, identifier := c.refer d.name })
  | .enum _ | .inputObject _ => none

/-- What is declared for several types. -/
def items : List TypeDef → Registry → List ResolverItem
  | [], _ => []
  | d :: rest, r =>
    let (name, claimed) := r.claim (c.itemName d)
    match c.item? d name claimed with
    | some item => item :: items rest claimed
    | none => items rest r

/-- The types that the declarations for several types refer to. -/
def mentioned (types : List TypeDef) : List String :=
  types.flatMap fun d =>
    match d.shape with
    | .object _ fields =>
      d.name :: fields.flatMap fun f => f.type.innermost :: f.arguments.map (·.type.innermost)
    | .interface .. => d.name :: c.schema.implementations d.name
    | .union members => d.name :: members
    | .scalar => [d.name]
    | .enum _ | .inputObject _ => []

end ResolverContext

/-! ### The resolvers of a schema -/

/-- Claims the shared names. -/
def SharedNames.claim (r : Registry) : SharedNames × Registry :=
  let (resolver, r) := r.claim usual.resolver
  let (subscriptionObject, r) := r.claim usual.subscriptionObject
  let (subscriptionResolver, r) := r.claim usual.subscriptionResolver
  let (typeResolve, r) := r.claim usual.typeResolve
  let (root, r) := r.claim usual.root
  let (context, r) := r.claim usual.context
  let (typeParent, r) := r.claim usual.typeParent
  let (parent, r) := r.claim usual.parent
  let (result, r) := r.claim usual.result
  ({ resolver, subscriptionObject, subscriptionResolver, typeResolve, root, context, typeParent,
     parent, result }, r)

/-- The references in effect: the type of the context, the default mapper, and the mappers of types
that the schema declares. -/
def referencesInEffect (s : Schema) (settings : Settings) : List Reference :=
  settings.contextType.toList ++ settings.defaultMapper.toList ++
    (settings.mappers.entries.filter fun (type, _) => s.contains type).map (·.2)

/-- The types that resolvers are declared for, among others. -/
def resolverTypes (s : Schema) : List TypeDef :=
  s.types.filter fun d => !isBuiltinScalar d.name && !isReflection d.name

/-- The names in use before the resolvers' code claims any: the identifiers of types and the symbols
of the GraphQL runtime. -/
def resolverBase (names : TypeNames) : Registry :=
  (baseRegistry.reserveAll names.identifiers).reserveAll [resolveInfo, scalarType, scalarTypeConfig]

/-- The symbols of the GraphQL runtime that the items need. -/
def runtimeSymbols (items : List ResolverItem) : List String :=
  if items.any ResolverItem.isScalar then [resolveInfo, scalarType, scalarTypeConfig]
  else [resolveInfo]

/-- Everything that is declared for the resolvers of a schema. -/
def resolverModule (s : Schema) (settings : Settings) : Except SchemaError ResolverModule := do
  let (names, _) := TypeNames.assign settings.typeNaming s.types baseRegistry
  let (shared, r) := SharedNames.claim (resolverBase names)
  let references := referencesInEffect s settings
  let (imports, r) := Imports.none.addAll r (references.filterMap Reference.external?)
  let c : ResolverContext := ⟨s, names, settings, imports⟩
  let types := resolverTypes s
  names.requireAll (c.mentioned types)
  let items := c.items types r
  return {
    names := shared
    contextDefault := (settings.contextType.map imports.template).getD "\x7b\x7d"
    items
    imports := (runtimeSymbols items).foldl (·.addPlain graphqlModule ·) imports }

end GraphTypes
