import GraphTypes.TypeExpr

/-!
# Schema texts

What a schema text declares, in the order of the text. Directives and default values leave no trace
here, as nothing depends on them; extensions and directive definitions are kept only as entries.
-/

namespace GraphTypes.Sdl

/-- An argument of a field or a field of an input object. -/
structure InputValue where
  description : Option String
  name : String
  type : TypeExpr
  deriving DecidableEq, Repr

/-- A field of an object or an interface. -/
structure Field where
  description : Option String
  name : String
  arguments : List InputValue
  type : TypeExpr
  deriving DecidableEq, Repr

/-- A value of an enum. -/
structure EnumValue where
  description : Option String
  name : String
  deriving DecidableEq, Repr

/-- What distinguishes the six kinds of types. -/
inductive Shape where
  | scalar
  | object (interfaces : List String) (fields : List Field)
  | interface (interfaces : List String) (fields : List Field)
  | union (members : List String)
  | enum (values : List EnumValue)
  | inputObject (fields : List InputValue)
  deriving DecidableEq, Repr

/-- The six kinds of types. -/
inductive Kind where
  | scalar
  | object
  | interface
  | union
  | enum
  | inputObject
  deriving DecidableEq, Repr

/-- The kind of type a shape belongs to. -/
def Shape.kind : Shape → Kind
  | scalar => .scalar
  | object .. => .object
  | interface .. => .interface
  | union _ => .union
  | enum _ => .enum
  | inputObject _ => .inputObject

/-- Whether values of a type have fields to select: objects, interfaces and unions. -/
def Kind.isComposite : Kind → Bool
  | object | interface | union => true
  | scalar | enum | inputObject => false

/-- The definition of a type. -/
structure TypeDef where
  description : Option String
  name : String
  shape : Shape
  deriving DecidableEq, Repr

namespace TypeDef

/-- The kind of a defined type. -/
def kind (d : TypeDef) : Kind := d.shape.kind

/-- The interfaces that an object or an interface lists. -/
def interfaces (d : TypeDef) : List String :=
  match d.shape with
  | .object interfaces _ | .interface interfaces _ => interfaces
  | _ => []

/-- The fields of an object or an interface. -/
def fields (d : TypeDef) : List Field :=
  match d.shape with
  | .object _ fields | .interface _ fields => fields
  | _ => []

end TypeDef

/-- The types that operations start from. -/
structure Roots where
  query : Option String := none
  mutation : Option String := none
  subscription : Option String := none
  deriving DecidableEq, Repr

/-- The names of the root types that are there: query, mutation, subscription. -/
def Roots.names (r : Roots) : List String :=
  r.query.toList ++ r.mutation.toList ++ r.subscription.toList

/-- An entry of a schema text. -/
inductive Definition where
  /-- A `schema` block, which names the root types. -/
  | roots (roots : Roots)
  | type (type : TypeDef)
  /-- An extension of the type of the given name. -/
  | extension (name : String)
  /-- The definition of a directive. -/
  | directive (name : String)
  deriving DecidableEq, Repr

/-- The entries of a schema text. -/
abbrev Document := List Definition

end GraphTypes.Sdl
