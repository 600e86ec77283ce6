/-!
# Operation documents

What operation documents select: the fields, with the fields selected from them, and the fragments.
Aliases, arguments, variables and directives leave no trace here, as nothing depends on them.
-/

namespace GraphTypes.Operation

/-- One entry of a selection set. -/
inductive Selection where
  | field (name : String) (selections : List Selection)
  /-- An inline fragment, on a type of its own or on the type at hand. -/
  | inlineFragment (condition : Option String) (selections : List Selection)
  | spread (fragment : String)
  deriving Repr

/-- The three kinds of operations. -/
inductive OperationKind where
  | query
  | mutation
  | subscription
  deriving DecidableEq, Repr

/-- The keyword of an operation. -/
def OperationKind.keyword : OperationKind → String
  | query => "query"
  | mutation => "mutation"
  | subscription => "subscription"

/-- An entry of an operation document. -/
inductive Definition where
  | operation (kind : OperationKind) (selections : List Selection)
  | fragment (name : String) (condition : String) (selections : List Selection)
  deriving Repr

/-- The entries of an operation document. -/
abbrev Document := List Definition

end GraphTypes.Operation
