import GraphTypes.Resolver.Basic

/-!
# The text of resolver signatures

How the parts of a `ResolverModule` are written. All text of the resolvers' code is made here.
-/

namespace GraphTypes

open TypeScript

/-- The module that the types of the GraphQL runtime come from. -/
def graphqlModule : String := "graphql"

/-- The symbols of the GraphQL runtime that generated code uses: what a resolver is told about the
query, a scalar, and the configuration of a scalar. -/
def resolveInfo : String := "GraphQLResolveInfo"

@[inherit_doc resolveInfo]
def scalarType : String := "GraphQLScalarType"

@[inherit_doc resolveInfo]
def scalarTypeConfig : String := "GraphQLScalarTypeConfig"

/-! ### Helpers -/

/-- The helper types, as one block. -/
def SharedNames.helpers (n : SharedNames) (exportMark : String) : String :=
  String.intercalate "\n"
    [exportMark ++ "type " ++ n.resolver
        ++ "<Result, Parent = \x7b\x7d, Context = \x7b\x7d, Args = \x7b\x7d> = (",
      "  parent: Parent,",
      "  args: Args,",
      "  context: Context,",
      "  info: " ++ resolveInfo,
      ") => Promise<Result> | Result;",
      "",
      exportMark ++ "interface " ++ n.subscriptionObject
        ++ "<Result, Parent, Context, Args> \x7b",
      "  subscribe<R = Result, P = Parent>(",
      "    parent: P,",
      "    args: Args,",
      "    context: Context,",
      "    info: " ++ resolveInfo,
      "  ): AsyncIterator<R | Result> | Promise<AsyncIterator<R | Result>>;",
      "  resolve?<R = Result, P = Parent>(",
      "    parent: P,",
      "    args: Args,",
      "    context: Context,",
      "    info: " ++ resolveInfo,
      "  ): R | Result | Promise<R | Result>;",
      "\x7d",
      "",
      exportMark ++ "type " ++ n.subscriptionResolver
        ++ "<Result, Parent = \x7b\x7d, Context = \x7b\x7d, Args = \x7b\x7d> =",
      "  | ((...args: any[]) => " ++ n.subscriptionObject ++ "<Result, Parent, Context, Args>)",
      "  | " ++ n.subscriptionObject ++ "<Result, Parent, Context, Args>;",
      "",
      exportMark ++ "type " ++ n.typeResolve
        ++ "<Types, Parent = \x7b\x7d, Context = \x7b\x7d> = (",
      "  parent: Parent,",
      "  context: Context,",
      "  info: " ++ resolveInfo,
      ") => Maybe<Types>;"]

/-! ### Objects -/

/-- The member for a field in the interface of its namespace. -/
def FieldResolver.member (n : SharedNames) (f : FieldResolver) : String :=
  f.field ++ "?: " ++ f.name ++ "<" ++ f.result.text ++ ", " ++ n.typeParent ++ ", " ++ n.context
    ++ ">;"

/-- The lines of the member for a field. -/
def FieldResolver.memberLines (n : SharedNames) (f : FieldResolver) : List String :=
  commentLines f.description ++ [f.member n]

/-- The signature of the resolver of a field. -/
def FieldResolver.signature (n : SharedNames) (contextDefault : String) (ns : ObjectNamespace)
    (f : FieldResolver) : String :=
  let helper := if ns.isSubscription then n.subscriptionResolver else n.resolver
  let arguments := match f.arguments with
    | some record => ", " ++ record.name
    | none => ""
  "export type " ++ f.name ++ "<" ++ n.result ++ " = " ++ f.result.text ++ ", " ++ n.parent ++ " = "
    ++ ns.parent ++ ", " ++ n.context ++ " = " ++ contextDefault ++ "> = " ++ helper ++ "<"
    ++ n.result ++ ", " ++ n.parent ++ ", " ++ n.context ++ arguments ++ ">;"

/-- The text of an argument record inside a namespace. -/
def ArgumentRecord.source (record : ArgumentRecord) : String :=
  "  export interface " ++ record.name ++ " \x7b\n"
    ++ indented "    " (record.members.flatMap Member.lines) ++ "  \x7d\n"

/-- The signature for a field, and the record of its arguments if it takes any. -/
def FieldResolver.source (n : SharedNames) (contextDefault : String) (ns : ObjectNamespace)
    (f : FieldResolver) : String :=
  "  " ++ f.signature n contextDefault ns ++ "\n" ++
    match f.arguments with
    | some record => record.source
    | none => ""

/-- The text of the namespace of an object. -/
def ObjectNamespace.source (n : SharedNames) (contextDefault exportMark : String)
    (ns : ObjectNamespace) : String :=
  let signatures := String.join (ns.fields.map (·.source n contextDefault ns))
  docComment "" ns.description ++ exportMark ++ "namespace " ++ ns.name ++ " \x7b\n"
    ++ "  export interface " ++ ns.resolvers ++ "<" ++ n.context ++ " = " ++ contextDefault ++ ", "
    ++ n.typeParent ++ " = " ++ ns.parent ++ "> \x7b\n"
    ++ indented "    " (ns.fields.flatMap (·.memberLines n))
    ++ "  \x7d\n" ++ (if ns.fields.isEmpty then "" else "\n" ++ signatures) ++ "\x7d"

/-! ### Interfaces, unions and scalars -/

/-- The text of the namespace of an interface or a union. -/
def AbstractNamespace.source (n : SharedNames) (contextDefault exportMark : String)
    (ns : AbstractNamespace) : String :=
  let names := alternatives (ns.members.map fun (name, _) => literal name)
  let parents := alternatives (ns.members.map (·.2))
  exportMark ++ "namespace " ++ ns.name ++ " \x7b\n"
    ++ "  export interface " ++ ns.resolvers ++ "<" ++ n.context ++ " = " ++ contextDefault
    ++ "> \x7b\n"
    ++ "    __resolveType: " ++ ns.resolveType ++ "<" ++ n.context ++ ">;\n"
    ++ "  \x7d\n\n"
    ++ "  export type " ++ ns.resolveType ++ "<" ++ n.context ++ " = " ++ contextDefault ++ "> = "
    ++ n.typeResolve ++ "<" ++ names ++ ", " ++ parents ++ ", " ++ n.context ++ ">;\n\x7d"

/-- The text of the interface for the configuration of a scalar. -/
def ScalarConfig.source (exportMark : String) (config : ScalarConfig) : String :=
  docComment "" config.description ++ exportMark ++ "interface " ++ config.name ++ " extends "
    ++ scalarTypeConfig ++ "<" ++ config.identifier ++ ", any> \x7b\n"
    ++ "  name: " ++ literal config.type ++ ";\n\x7d"

/-! ### The whole module -/

/-- The text of what is declared for a type. -/
def ResolverItem.source (n : SharedNames) (contextDefault exportMark : String) :
    ResolverItem → String
  | object ns => ns.source n contextDefault exportMark
  | abstract ns => ns.source n contextDefault exportMark
  | scalar config => config.source exportMark

/-- The type that an item contributes to the gathering type. -/
def ResolverItem.entryType (n : SharedNames) : ResolverItem → String
  | object ns => ns.name ++ "." ++ ns.resolvers ++ "<" ++ n.context ++ ">"
  | abstract ns => ns.name ++ "." ++ ns.resolvers ++ "<" ++ n.context ++ ">"
  | scalar _ => scalarType

/-- The member that an item contributes to the gathering type. -/
def ResolverItem.entry (n : SharedNames) (item : ResolverItem) : String :=
  item.type ++ "?: " ++ item.entryType n ++ ";"

namespace ResolverModule

/-- The text of the type that gathers everything. -/
def rootSource (m : ResolverModule) (exportMark : String) : String :=
  let header := exportMark ++ "interface " ++ m.names.root ++ "<" ++ m.names.context ++ " = "
    ++ m.contextDefault ++ ">"
  if m.items.isEmpty then header ++ " \x7b\x7d"
  else header ++ " \x7b\n" ++ indented "  " (m.items.map (·.entry m.names)) ++ "\x7d"

/-- The texts of all declarations. -/
def sources (m : ResolverModule) (exportMark : String) : List String :=
  [m.names.helpers exportMark]
    ++ m.items.map (·.source m.names m.contextDefault exportMark)
    ++ [m.rootSource exportMark]

end ResolverModule

end GraphTypes
