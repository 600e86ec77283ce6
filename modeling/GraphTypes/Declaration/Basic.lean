import GraphTypes.Sdl.Basic
import GraphTypes.TypeScript.Member

/-!
# Declarations

A declaration of generated code with all that is known about it, and its text.
-/

namespace GraphTypes

open TypeScript

/-- What a declaration stands for. -/
inductive DeclarationKind where
  /-- A type of the schema. -/
  | type (kind : Sdl.Kind)
  /-- The arguments of one field. -/
  | arguments
  deriving DecidableEq, Repr

/-- What a declaration says about its identifier. -/
inductive DeclarationBody where
  /-- Another name for a type. -/
  | alias (type : String)
  /-- A choice between the types of the given identifiers. -/
  | sum (members : List String)
  /-- A choice between string literals. -/
  | literals (values : List String)
  | enum (const : Bool) (members : List EnumMember)
  | record (members : List Member)
  deriving DecidableEq, Repr

/-- A declaration of generated code. -/
structure Declaration where
  /-- The GraphQL name of a type; of an argument record, its identifier. -/
  name : String
  kind : DeclarationKind
  /-- The identifier that is declared. -/
  identifier : String
  description : Option String
  body : DeclarationBody
  deriving DecidableEq, Repr

namespace Declaration

/-- The text of a declaration behind its doc comment and its export mark. -/
def bodyText (identifier : String) : DeclarationBody → String
  | .alias type => "type " ++ identifier ++ " = " ++ type ++ ";"
  | .sum members => "type " ++ identifier ++ " = " ++ alternatives members ++ ";"
  | .literals values => "type " ++ identifier ++ " = " ++ alternatives (values.map literal) ++ ";"
  | .enum const members =>
    (if const then "const enum " else "enum ") ++ identifier ++ " \x7b\n"
      ++ indented "  " (members.flatMap EnumMember.lines) ++ "\x7d"
  | .record members =>
    if members.isEmpty then "interface " ++ identifier ++ " \x7b\x7d"
    else "interface " ++ identifier ++ " \x7b\n"
      ++ indented "  " (members.flatMap Member.lines) ++ "\x7d"

/-- The text of a declaration. -/
def source (exportMark : String) (d : Declaration) : String :=
  docComment "" d.description ++ exportMark ++ bodyText d.identifier d.body

end Declaration

end GraphTypes
