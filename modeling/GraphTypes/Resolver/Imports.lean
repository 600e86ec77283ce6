import GraphTypes.Config.Settings
import GraphTypes.Name.Registry

/-!
# Imports

The symbols that generated code takes from other modules, by module and by symbol, each with the
name it goes by in the generated code. A symbol keeps its own name if that is free.
-/

namespace GraphTypes

open Config Name

/-- Local names by module path and symbol. -/
abbrev Imports := Dictionary (Dictionary String)

namespace Imports

/-- Nothing is imported. -/
def none : Imports := Dictionary.empty

/-- The symbols imported from a module. -/
def symbols (imports : Imports) (modulePath : String) : Dictionary String :=
  (imports.get? modulePath).getD .empty

/-- Enters a symbol under a local name. -/
def enter (imports : Imports) (modulePath symbol localName : String) : Imports :=
  imports.insert modulePath ((imports.symbols modulePath).insert symbol localName)

/-- The local name of an external reference. -/
def localName? (imports : Imports) (ref : ExternalRef) : Option String :=
  (imports.get? ref.modulePath).bind (·.get? ref.symbol)

/-- Imports a symbol under its own name, whoever owns that name. -/
def addPlain (imports : Imports) (modulePath symbol : String) : Imports :=
  imports.enter modulePath symbol symbol

/-- The name wanted for a symbol: its own, or a longer one if that is in use. -/
def wantedName (r : Registry) (symbol : String) : String :=
  if r.contains symbol then symbol ++ "Mapper" else symbol

/-- Imports an external reference, unless it is imported already. -/
def add (imports : Imports) (r : Registry) (ref : ExternalRef) : Imports × Registry :=
  match imports.localName? ref with
  | some _ => (imports, r)
  | Option.none =>
    let (localName, r) := r.claim (wantedName r ref.symbol)
    (imports.enter ref.modulePath ref.symbol localName, r)

/-- Imports several external references in order. -/
def addAll (imports : Imports) (r : Registry) : List ExternalRef → Imports × Registry
  | [] => (imports, r)
  | ref :: refs =>
    let (imports, r) := imports.add r ref
    imports.addAll r refs

/-! ### Using a reference -/

/-- Puts a text in the place of every `{T}`. -/
def fillIn (name : List Char) : List Char → List Char
  | '\x7b' :: 'T' :: '\x7d' :: rest => name ++ fillIn name rest
  | c :: rest => c :: fillIn name rest
  | [] => []

/-- The expression for a reference, before anything is filled in. -/
def template (imports : Imports) : Reference → String
  | .inline text => text
  | .external ref => (imports.localName? ref).getD ref.symbol ++ ref.typeArguments

/-- The expression for a reference that replaces a type of the given identifier. -/
def expression (imports : Imports) (reference : Reference) (identifier : String) : String :=
  String.ofList (fillIn identifier.toList (imports.template reference).toList)

/-! ### Import lines -/

/-- How an import line names a symbol. -/
def specifier (symbol localName : String) : String :=
  if symbol = localName then symbol else symbol ++ " as " ++ localName

/-- The import line for a module. -/
def line (modulePath : String) (symbols : Dictionary String) : String :=
  "import \x7b " ++ String.intercalate ", " (symbols.entries.map fun (s, l) => specifier s l)
    ++ " \x7d from '" ++ modulePath ++ "';"

/-- One line for each module, in the order of their paths. -/
def lines (imports : Imports) : List String :=
  imports.entries.map fun (modulePath, symbols) => line modulePath symbols

end Imports

end GraphTypes
