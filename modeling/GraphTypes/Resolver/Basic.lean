import GraphTypes.Resolver.Imports
import GraphTypes.TypeScript.Member

/-!
# Resolver signatures

What the code for the server side of a schema declares: for every object a namespace with the
signature of a resolver for each field, for every interface and union a namespace with the signature
that tells the type of a value, and for every scalar an interface for its configuration. A few
helper types come before these, and a type that gathers them all comes last.
-/

namespace GraphTypes

open TypeScript

/-- The names that all namespaces of one output share. -/
structure SharedNames where
  resolver : String
  subscriptionObject : String
  subscriptionResolver : String
  typeResolve : String
  /-- The type that gathers everything. -/
  root : String
  /-- The remaining names are those of type parameters. -/
  context : String
  typeParent : String
  parent : String
  result : String
  deriving DecidableEq, Repr

namespace SharedNames

/-- The names in the order in which they are claimed. -/
def toList (n : SharedNames) : List String :=
  [n.resolver, n.subscriptionObject, n.subscriptionResolver, n.typeResolve, n.root, n.context,
    n.typeParent, n.parent, n.result]

/-- The names as they are if nothing else uses them. -/
def usual : SharedNames where
  resolver := "Resolver"
  subscriptionObject := "ISubscriptionResolverObject"
  subscriptionResolver := "SubscriptionResolver"
  typeResolve := "TypeResolveFn"
  root := "IResolvers"
  context := "Context"
  typeParent := "TypeParent"
  parent := "Parent"
  result := "R"

end SharedNames

/-- The arguments of a field, as the resolver takes them. -/
structure ArgumentRecord where
  name : String
  members : List Member
  deriving DecidableEq, Repr

/-- A field of an object with the signature of its resolver. -/
structure FieldResolver where
  description : Option String
  field : String
  /-- The name of the signature. -/
  name : String
  /-- What the resolver yields. -/
  result : Ty
  arguments : Option ArgumentRecord
  deriving DecidableEq, Repr

/-- The namespace of an object. -/
structure ObjectNamespace where
  /-- The GraphQL name of the object. -/
  type : String
  description : Option String
  name : String
  /-- The interface of the namespace that has a member for each field. -/
  resolvers : String
  /-- The type of the values that the fields belong to. -/
  parent : String
  /-- Whether the fields yield streams of values. -/
  isSubscription : Bool
  fields : List FieldResolver
  deriving DecidableEq, Repr

/-- The namespace of an interface or a union. -/
structure AbstractNamespace where
  /-- The GraphQL name of the interface or union. -/
  type : String
  name : String
  /-- The interface of the namespace. -/
  resolvers : String
  /-- The name of the signature. -/
  resolveType : String
  /-- The objects that a value may be of: their GraphQL names, and the types of such values. -/
  members : List (String × String)
  deriving DecidableEq, Repr

/-- The interface for the configuration of a scalar. -/
structure ScalarConfig where
  /-- The GraphQL name of the scalar. -/
  type : String
  description : Option String
  name : String
  /-- The identifier of the scalar. -/
  identifier : String
  deriving DecidableEq, Repr

/-- What is declared for one type. -/
inductive ResolverItem where
  | object (ns : ObjectNamespace)
  | abstract (ns : AbstractNamespace)
  | scalar (config : ScalarConfig)
  deriving DecidableEq, Repr

namespace ResolverItem

/-- The GraphQL name of the type. -/
def type : ResolverItem → String
  | object ns => ns.type
  | abstract ns => ns.type
  | scalar config => config.type

/-- The name that is declared at the top level. -/
def name : ResolverItem → String
  | object ns => ns.name
  | abstract ns => ns.name
  | scalar config => config.name

/-- Whether the item is that of a scalar. -/
def isScalar : ResolverItem → Bool
  | scalar _ => true
  | _ => false

end ResolverItem

/-- Everything that is declared for the resolvers of a schema. -/
structure ResolverModule where
  names : SharedNames
  /-- The context that resolvers are given unless they ask for another. -/
  contextDefault : String
  items : List ResolverItem
  imports : Imports

end GraphTypes
