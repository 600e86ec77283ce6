import GraphTypes.Sdl.Basic
import GraphTypes.Source.Reader

/-!
# Reading schema texts

The grammar of schema texts. A document has at least one definition. Descriptions stand before
types, directive definitions, fields, arguments, input fields and enum values. A body in brackets
has at least one member, save that of `schema`, but types may do without a body.
-/

namespace GraphTypes.Sdl

open GraphTypes.Source Reader

/-! ### Members -/

/-- Reads `name: Type = default @directives`, perhaps after a description. -/
def readInputValue (depth : Nat) : Reader InputValue := do
  let description ← quoted?
  let name ← name
  mark ':'
  let type ← typeExpr depth
  if ← skip (.mark '=') then value false depth
  let _ ← directives depth
  return { description, name, type }

/-- Reads the arguments that a field or a directive declares, if there are any. -/
def readArguments : Nat → Reader (List InputValue)
  | 0 => do guard (!(← skip (.mark '('))); return []
  | depth + 1 => optionalSome '(' ')' (readInputValue depth)

/-- Reads a field of an object or an interface. -/
def readField (depth : Nat) : Reader Field := do
  let description ← quoted?
  let name ← name
  let arguments ← readArguments depth
  mark ':'
  let type ← typeExpr depth
  let _ ← directives depth
  return { description, name, arguments, type }

/-- Reads a value of an enum. -/
def readEnumValue (depth : Nat) : Reader EnumValue := do
  let description ← quoted?
  let name ← name
  let _ ← directives depth
  return { description, name }

/-- Reads a body in braces, if there is one. -/
def readBody {α : Type} (member : Nat → Reader α) : Nat → Reader (List α)
  | 0 => do guard (!(← skip (.mark '\x7b'))); return []
  | depth + 1 => optionalSome '\x7b' '\x7d' (member depth)

/-- Reads `implements A & B`, if it is there. -/
def readInterfaces : Reader (List String) := do
  if ← skip (.name "implements") then
    let _ ← skip (.mark '&')
    separated '&' name
  else return []

/-- Reads the members of a union behind an equals sign, if they are there. -/
def readMembers : Reader (List String) := do
  if ← skip (.mark '=') then
    let _ ← skip (.mark '|')
    separated '|' name
  else return []

/-! ### Types and extensions -/

/-- Reads what follows the keyword of a type: its name and its shape. Tells too whether the
definition says anything an extension can add, which a mere `implements` of an interface does
not. -/
def readShape (keyword : String) (depth : Nat) : Reader (String × Shape × Bool) := do
  match keyword with
  | "scalar" =>
    let name ← name
    let decorated ← directives depth
    return (name, .scalar, decorated)
  | "type" =>
    let name ← name
    let interfaces ← readInterfaces
    let decorated ← directives depth
    let fields ← readBody readField depth
    return (name, .object interfaces fields, decorated || !interfaces.isEmpty || !fields.isEmpty)
  | "interface" =>
    let name ← name
    let interfaces ← readInterfaces
    let decorated ← directives depth
    let fields ← readBody readField depth
    return (name, .interface interfaces fields, decorated || !fields.isEmpty)
  | "union" =>
    let name ← name
    let decorated ← directives depth
    let members ← readMembers
    return (name, .union members, decorated || !members.isEmpty)
  | "enum" =>
    let name ← name
    let decorated ← directives depth
    let values ← readBody readEnumValue depth
    return (name, .enum values, decorated || !values.isEmpty)
  | "input" =>
    let name ← name
    let decorated ← directives depth
    let fields ← readBody readInputValue depth
    return (name, .inputObject fields, decorated || !fields.isEmpty)
  | _ => failure

/-- Reads an extension behind `extend`. -/
def readExtension (depth : Nat) : Reader Definition := do
  let (name, _, adds) ← readShape (← name) depth
  guard adds
  return .extension name

/-! ### Other definitions -/

/-- The places a directive can be declared for. -/
def directiveLocations : List String :=
  ["QUERY", "MUTATION", "SUBSCRIPTION", "FIELD", "FRAGMENT_DEFINITION", "FRAGMENT_SPREAD",
    "INLINE_FRAGMENT", "SCHEMA", "SCALAR", "OBJECT", "FIELD_DEFINITION", "ARGUMENT_DEFINITION",
    "INTERFACE", "UNION", "ENUM", "ENUM_VALUE", "INPUT_OBJECT", "INPUT_FIELD_DEFINITION",
    "VARIABLE_DEFINITION"]

/-- Reads a place that a directive is declared for. -/
def readLocation : Reader Unit := do
  guard (directiveLocations.contains (← name))

/-- Reads the places that a directive is declared for. Behind a leading bar there is at least one;
without it there may be none. -/
def readLocations : Reader Unit := do
  let barred ← skip (.mark '|')
  match barred, ← peek with
  | true, _ | false, some (.name _) => let _ ← separated '|' readLocation
  | _, _ => return

/-- Reads a directive definition behind `directive`. -/
def readDirective (depth : Nat) : Reader Definition := do
  mark '@'
  let name ← name
  let _ ← readArguments depth
  let _ ← skip (.name "repeatable")
  expect (.name "on")
  readLocations
  return .directive name

/-- Enters one line of a `schema` block. Each operation occurs at most once. -/
def addRoot (roots : Roots) (entry : String × String) : Option Roots :=
  match entry with
  | ("query", type) => if roots.query.isNone then some { roots with query := some type } else none
  | ("mutation", type) =>
    if roots.mutation.isNone then some { roots with mutation := some type } else none
  | ("subscription", type) =>
    if roots.subscription.isNone then some { roots with subscription := some type } else none
  | _ => none

/-- Reads a `schema` block behind its keyword. -/
def readRoots (depth : Nat) : Reader Definition := do
  let _ ← directives depth
  mark '\x7b'
  let entries ← manyUntil (.mark '\x7d') (do
    let operation ← name
    mark ':'
    return (operation, ← name))
  let roots ← (entries.foldlM addRoot {} : Option Roots)
  return .roots roots

/-! ### Documents -/

/-- Reads a definition. -/
def readDefinition (depth : Nat) : Reader Definition := do
  let description ← quoted?
  match ← name with
  | "directive" => readDirective depth
  | "schema" => guard description.isNone; readRoots depth
  | "extend" => guard description.isNone; readExtension depth
  | keyword =>
    let (name, shape, _) ← readShape keyword depth
    return .type { description, name, shape }

/-- The definitions of a schema text; none if the text does not follow the grammar. -/
def Document.ofText? (text : String) : Option Document := do
  let definitions ← Reader.all (readDefinition maxDepth) (← Token.tokens? text.toList)
  guard (!definitions.isEmpty)
  return definitions

end GraphTypes.Sdl
