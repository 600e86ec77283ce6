import GraphTypes.Source.Token
import GraphTypes.TypeExpr

/-!
# Reading tokens

A `Reader` takes tokens off the front of a list and yields what they stand for, or fails. The
grammar can always be followed by looking at the next token alone, so no reader ever goes back.

Brackets of all three kinds may be nested to a depth of 50 together. A reader that opens a bracket
gets the depth it may still open as a number, and the recursion of the grammar is recursion on it.

The parts that schema texts and operation documents share are at the end: values and directives,
which are checked and then dropped, and type references.
-/

namespace GraphTypes.Source

/-- Takes tokens off the front of a list. -/
abbrev Reader (α : Type) := StateT (List Token) Option α

namespace Reader

/-- How many brackets may be open at once. -/
def maxDepth : Nat := 50

/-! ### Single tokens -/

/-- The next token, which is left in place. -/
def peek : Reader (Option Token) := do return (← get).head?

/-- Takes the next token. -/
def next : Reader Token
  | [] => none
  | t :: rest => some (t, rest)

/-- Takes the next token if it is `t`, and says whether it was. -/
def skip (t : Token) : Reader Bool
  | [] => some (false, [])
  | u :: rest => if u = t then some (true, rest) else some (false, u :: rest)

/-- Takes the token `t`. -/
def expect (t : Token) : Reader Unit := do
  guard (← skip t)

/-- Takes a punctuator. -/
def mark (c : Char) : Reader Unit := expect (.mark c)

/-- Takes a name. Keywords are names like all others. -/
def name : Reader String := do
  match ← next with
  | .name text => return text
  | _ => failure

/-- Takes a name if one comes next. -/
def name? : Reader (Option String) := do
  match ← peek with
  | some (.name _) => return some (← name)
  | _ => return none

/-- Takes a quoted text if one comes next. -/
def quoted? : Reader (Option String)
  | .quoted text :: rest => some (some text, rest)
  | ts => some (none, ts)

/-! ### Repetition -/

/-- Reads items as long as the next token can begin one, and no more of them than `bound` has
members. -/
def manyWithin {α : Type} (begins : Token → Bool) (item : Reader α) (bound : List Token) :
    Reader (List α) := do
  if (← peek).any begins then
    match bound with
    | [] => failure
    | _ :: bound =>
      let first ← item
      let others ← manyWithin begins item bound
      return first :: others
  else return []

/-- Reads items as long as the next token can begin one. An item takes at least one token, so there
are no more items than tokens. -/
def manyWhile {α : Type} (begins : Token → Bool) (item : Reader α) : Reader (List α) := fun ts =>
  manyWithin begins item ts ts

/-- Reads items up to a closing token, which is taken too. -/
def manyUntil {α : Type} (close : Token) (item : Reader α) : Reader (List α) := do
  let items ← manyWhile (· != close) item
  expect close
  return items

/-- Reads at least one item up to a closing token. -/
def someUntil {α : Type} (close : Token) (item : Reader α) : Reader (List α) := do
  let items ← manyUntil close item
  guard (!items.isEmpty)
  return items

/-- Reads items that stand between an opening and a closing punctuator: at least one, or no
brackets at all. -/
def optionalSome {α : Type} (opening close : Char) (item : Reader α) : Reader (List α) := do
  if ← skip (.mark opening) then someUntil (.mark close) item else return []

/-- Reads one or more items with a punctuator between each two. -/
def separated {α : Type} (separator : Char) (item : Reader α) : Reader (List α) := do
  let first ← item
  let others ← manyWhile (· == .mark separator) (do mark separator; item)
  return first :: others

/-- Reads items until the tokens are used up. -/
def all {α : Type} (item : Reader α) (ts : List Token) : Option (List α) :=
  (manyWhile (fun _ => true) item ts).map (·.1)

/-! ### Values and directives -/

/-- Reads a value and drops it. Variables count as values only where they are allowed. -/
def value (allowVariables : Bool) : Nat → Reader Unit
  | 0 => do
    match ← next with
    | .name _ | .number | .quoted _ => return
    | .mark '$' => guard allowVariables; let _ ← name
    | _ => failure
  | depth + 1 => do
    match ← next with
    | .name _ | .number | .quoted _ => return
    | .mark '$' => guard allowVariables; let _ ← name
    | .mark '[' => let _ ← manyUntil (.mark ']') (value allowVariables depth)
    | .mark '\x7b' =>
      let _ ← manyUntil (.mark '\x7d') (do let _ ← name; mark ':'; value allowVariables depth)
    | _ => failure

/-- Reads the arguments of a field or a directive, if there are any, and drops them. -/
def arguments : Nat → Reader Unit
  | 0 => do guard (!(← skip (.mark '(')))
  | depth + 1 => do
    let _ ← optionalSome '(' ')' (do let _ ← name; mark ':'; value true depth)

/-- Reads directives and drops them; says whether there were any. -/
def directives (depth : Nat) : Reader Bool := do
  let found ← manyWhile (· == .mark '@') (do mark '@'; let _ ← name; arguments depth)
  return !found.isEmpty

/-! ### Type references -/

/-- Reads a type reference. -/
def typeExpr : Nat → Reader TypeExpr
  | 0 => do
    let type := TypeExpr.named (← name)
    return if ← skip (.mark '!') then .nonNull type else type
  | depth + 1 => do
    let type ←
      if ← skip (.mark '[') then do
        let item ← typeExpr depth
        mark ']'
        pure (TypeExpr.list item)
      else pure (TypeExpr.named (← name))
    return if ← skip (.mark '!') then .nonNull type else type

end Reader

end GraphTypes.Source
