/-!
# Generated code

What a generator yields: lines that have to stand at the top of a file, such as imports, and the
code below them. Outputs of several generators are merged into one file.
-/

namespace GraphTypes

/-- Generated code. -/
structure Output where
  /-- The lines at the top of the file. -/
  preamble : List String := []
  content : String := ""
  deriving DecidableEq, Repr

namespace Output

/-- No code. -/
def empty : Output := {}

/-- Whether a line imports something. -/
def isImport (line : String) : Bool := "import ".toList.isPrefixOf line.toList

/-- Adds the lines that are not there yet, each once. -/
def addMissing (lines : List String) : List String → List String
  | [] => lines
  | line :: rest => addMissing (if lines.contains line then lines else lines ++ [line]) rest

/-- Puts the imports in front of all other lines. -/
def importsFirst (lines : List String) : List String :=
  lines.filter isImport ++ lines.filter (!isImport ·)

/-- Puts two texts after one another, with a blank line between them if neither is empty. -/
def joinContent (a b : String) : String :=
  if a = "" then b else if b = "" then a else a ++ "\n\n" ++ b

/-- Two outputs as one: the second adds to the top of the file what is missing there, and its code
comes below that of the first. -/
def merge (a b : Output) : Output :=
  { preamble := importsFirst (addMissing a.preamble b.preamble)
    content := joinContent a.content b.content }

/-- The text of the file. -/
def source (o : Output) : String :=
  String.join (o.preamble.map (· ++ "\n"))
    ++ (if o.preamble.isEmpty || o.content = "" then "" else "\n")
    ++ (if o.content = "" then "" else o.content ++ "\n")

end Output

end GraphTypes
