import GraphTypes.TypeExpr

/-!
# TypeScript types for GraphQL references

A reference becomes a TypeScript type of the same structure: lists become arrays, and what may be
null is wrapped in `Maybe`. What stands for a named type is left to the caller.
-/

namespace GraphTypes.TypeScript

/-- A TypeScript type. -/
inductive Ty where
  /-- An expression of which nothing further is known. -/
  | leaf (text : String)
  | maybe (inner : Ty)
  | array (readonly : Bool) (item : Ty)
  deriving DecidableEq, Repr

namespace Ty

/-- A type as TypeScript writes it. -/
def text : Ty → String
  | leaf text => text
  | maybe inner => "Maybe<" ++ inner.text ++ ">"
  | array readonly item =>
    (if readonly then "ReadonlyArray<" else "Array<") ++ item.text ++ ">"

/-- Wraps a type that may be null. -/
def orNull (nullable : Bool) (type : Ty) : Ty := if nullable then maybe type else type

/-- The type for a reference, given what stands for each named type. The flag says whether the
reference may be null unless it is marked otherwise. -/
def ofTypeExprAs (readonly : Bool) (leafOf : String → String) (nullable : Bool) : TypeExpr → Ty
  | .named name => orNull nullable (leaf (leafOf name))
  | .list item => orNull nullable (array readonly (ofTypeExprAs readonly leafOf true item))
  | .nonNull inner => ofTypeExprAs readonly leafOf false inner

/-- The type for a reference, given what stands for each named type. -/
def ofTypeExpr (readonly : Bool) (leafOf : String → String) (type : TypeExpr) : Ty :=
  ofTypeExprAs readonly leafOf true type

end Ty

end GraphTypes.TypeScript
