import GraphTypes.Schema.Fault

/-!
# Schemas

A `Schema` is a list of type definitions, in the order of their declaration, with the root types
that operations start from, and without any fault. `Schema.ofDocument` is the way to make one from a
schema text.
-/

namespace GraphTypes

open Sdl

/-- The types of a schema in the order of declaration, with its root types. -/
structure Schema where
  types : List TypeDef
  roots : Roots
  /-- No rule is broken. -/
  faultless : Schema.firstFault types roots = none

namespace Schema

/-! ### Making a schema -/

/-- The types that a schema text declares, extensions and directives left out. -/
def declared (doc : Document) : List TypeDef :=
  doc.filterMap fun
    | .type d => some d
    | _ => none

/-- The last `schema` block of a text. -/
def lastRoots? (doc : Document) : Option Roots :=
  (doc.filterMap fun
    | .roots roots => some roots
    | _ => none).getLast?

/-- The root types of a text without a `schema` block: those with the usual names that are
declared. -/
def usualRoots (types : List TypeDef) : Roots :=
  let ifDeclared := fun name : String => if (lookup? types name).isSome then some name else none
  { query := ifDeclared "Query"
    mutation := ifDeclared "Mutation"
    subscription := ifDeclared "Subscription" }

/-- The root types of a schema text. -/
def rootsOf (doc : Document) : Roots := (lastRoots? doc).getD (usualRoots (declared doc))

/-- The schema that a text declares, or the first fault in it. -/
def ofDocument (doc : Document) : Except SchemaError Schema :=
  match h : firstFault (declared doc) (rootsOf doc) with
  | none => .ok ⟨declared doc, rootsOf doc, h⟩
  | some e => .error e

/-! ### Looking things up -/

variable (s : Schema)

/-- The type declared under a name. -/
def get? (name : String) : Option TypeDef := lookup? s.types name

/-- Whether a type of this name is declared. -/
def contains (name : String) : Bool := (s.get? name).isSome

/-- The kind of the type declared under a name. -/
def kind? (name : String) : Option Kind := (s.get? name).map (·.kind)

/-- Whether a name is that of a root type. -/
def isRoot (name : String) : Bool := s.roots.names.contains name

/-- The objects that list an interface, in the order of declaration. -/
def implementations (interface : String) : List String :=
  (s.types.filter fun d => d.kind == .object && d.interfaces.contains interface).map (·.name)

/-- A field of an object or an interface. -/
def field? (type field : String) : Option Field :=
  (s.get? type).bind fun d => d.fields.find? (·.name == field)

/-- The root type of a kind of operation. -/
def root? : Operation.OperationKind → Option String
  | .query => s.roots.query
  | .mutation => s.roots.mutation
  | .subscription => s.roots.subscription

end Schema

end GraphTypes
