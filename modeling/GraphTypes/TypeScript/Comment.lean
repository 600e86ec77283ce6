import GraphTypes.Text.Line

/-!
# Doc comments

Descriptions of a schema become doc comments of the generated code. A description is text from
outside, and must not end the comment it stands in: every `*/` in it is written with a backslash
between its two characters.
-/

namespace GraphTypes.TypeScript

open GraphTypes.Text

/-- A text in which no two characters in a row end a comment. -/
def escapeCommentEnd : List Char → List Char
  | '*' :: '/' :: rest => '*' :: '\\' :: '/' :: escapeCommentEnd rest
  | c :: rest => c :: escapeCommentEnd rest
  | [] => []

/-- One line of a comment of several lines. -/
def commentLine (line : List Char) : List Char :=
  if line.all isBlank then [' ', '*'] else [' ', '*', ' '] ++ trimEnd line

/-- The lines of a doc comment: none for a description that is missing or blank. -/
def commentLines (description : Option String) : List String :=
  match trimChars (description.getD "").toList with
  | [] => []
  | text =>
    match lines (escapeCommentEnd text) with
    | [line] => ["/** " ++ String.ofList line ++ " */"]
    | several => ["/**"] ++ several.map (fun line => String.ofList (commentLine line)) ++ [" */"]

/-- Code lines with white space in front and a line end after each. -/
def indented (indent : String) (code : List String) : String :=
  String.join (code.map fun line => indent ++ line ++ "\n")

/-- The doc comment for a description, ready to stand in front of a declaration. -/
def docComment (indent : String) (description : Option String) : String :=
  indented indent (commentLines description)

end GraphTypes.TypeScript
