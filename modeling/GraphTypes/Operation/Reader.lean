import GraphTypes.Operation.Basic
import GraphTypes.Source.Reader

/-!
# Reading operation documents

The grammar of operation documents. A document has at least one definition, and every selection set
and every list in parentheses at least one entry.
-/

namespace GraphTypes.Operation

open GraphTypes.Source Reader

/-! ### Selections -/

/-- Reads a field up to its selection set: an alias, the name, arguments and directives. -/
def readFieldHead (depth : Nat) : Reader String := do
  let first ← name
  let name ← if ← skip (.mark ':') then name else pure first
  arguments depth
  let _ ← directives depth
  return name

/-- Reads the selections behind an opening brace. Within `n + 1` brackets a selection set may hold
selection sets within `n`. -/
def readSelections : Nat → Reader (List Selection)
  | 0 => someUntil (.mark '\x7d') (do
    if ← skip .ellipsis then
      let fragment ← name
      guard (fragment != "on")
      let _ ← directives 0
      return .spread fragment
    else
      return .field (← readFieldHead 0) [])
  | depth + 1 => someUntil (.mark '\x7d') (do
    if ← skip .ellipsis then
      let condition ← if ← skip (.name "on") then (do return some (← name)) else pure none
      match condition, ← peek with
      | none, some (.name fragment) =>
        let _ ← next
        let _ ← directives (depth + 1)
        return .spread fragment
      | _, _ =>
        let _ ← directives (depth + 1)
        mark '\x7b'
        return .inlineFragment condition (← readSelections depth)
    else
      let name ← readFieldHead (depth + 1)
      if ← skip (.mark '\x7b') then return .field name (← readSelections depth)
      else return .field name [])

/-- Reads a selection set. -/
def readSelectionSet : Nat → Reader (List Selection)
  | 0 => failure
  | depth + 1 => do
    mark '\x7b'
    readSelections depth

/-! ### Definitions -/

/-- Reads `$name: Type = default` and drops it. -/
def readVariable (depth : Nat) : Reader Unit := do
  mark '$'
  let _ ← name
  mark ':'
  let _ ← typeExpr depth
  if ← skip (.mark '=') then value false depth

/-- Reads the variables of an operation, if there are any, and drops them. -/
def readVariables : Nat → Reader Unit
  | 0 => do guard (!(← skip (.mark '(')))
  | depth + 1 => do let _ ← optionalSome '(' ')' (readVariable depth)

/-- Reads an operation behind its keyword. -/
def readOperation (kind : OperationKind) (depth : Nat) : Reader Definition := do
  let _ ← name?
  readVariables depth
  let _ ← directives depth
  return .operation kind (← readSelectionSet depth)

/-- Reads a definition. -/
def readDefinition (depth : Nat) : Reader Definition := do
  match ← peek with
  | some (.mark '\x7b') => return .operation .query (← readSelectionSet depth)
  | _ =>
    match ← name with
    | "query" => readOperation .query depth
    | "mutation" => readOperation .mutation depth
    | "subscription" => readOperation .subscription depth
    | "fragment" =>
      let fragment ← name
      expect (.name "on")
      let condition ← name
      let _ ← directives depth
      return .fragment fragment condition (← readSelectionSet depth)
    | _ => failure

/-- The definitions of an operation document; none if the text does not follow the grammar. -/
def Document.ofText? (text : String) : Option Document := do
  let definitions ← Reader.all (readDefinition maxDepth) (← Token.tokens? text.toList)
  guard (!definitions.isEmpty)
  return definitions

end GraphTypes.Operation
