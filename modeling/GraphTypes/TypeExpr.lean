/-!
# GraphQL type references

A reference such as `[User!]!`: a named type under any nesting of lists and non-null marks.
-/

namespace GraphTypes

/-- A reference to a type, as a field, an argument or an input field makes it. -/
inductive TypeExpr where
  | named (name : String)
  | list (item : TypeExpr)
  | nonNull (inner : TypeExpr)
  deriving DecidableEq, Repr

namespace TypeExpr

/-- The named type at the heart of a reference: `User` for `[User!]!`. -/
def innermost : TypeExpr → String
  | named name => name
  | list item => item.innermost
  | nonNull inner => inner.innermost

/-- Whether a reference admits null. -/
def isNullable : TypeExpr → Bool
  | nonNull _ => false
  | _ => true

/-- A reference as GraphQL writes it. -/
def text : TypeExpr → String
  | named name => name
  | list item => "[" ++ item.text ++ "]"
  | nonNull inner => inner.text ++ "!"

end TypeExpr

end GraphTypes
