import GraphTypes.Text.Letter

/-!
# Trimming, splitting and lines

The cuts that texts are read with. All work on lists of characters; `String` appears only where a
caller has one.
-/

namespace GraphTypes.Text

/-- A text without the white space at its end. -/
def trimEnd (text : List Char) : List Char := (text.reverse.dropWhile isBlank).reverse

/-- A text without the white space at its ends. -/
def trimChars (text : List Char) : List Char := trimEnd (text.dropWhile isBlank)

/-- A text without the white space at its ends. -/
def trim (text : String) : String := String.ofList (trimChars text.toList)

/-- The text before the first `mark` and the text after it; nothing if `mark` does not occur. -/
def cutAt (mark : Char) : List Char → Option (List Char × List Char)
  | [] => none
  | c :: rest =>
    if c = mark then some ([], rest) else (cutAt mark rest).map fun (a, b) => (c :: a, b)

/-- A line loses the carriage return that stands before its line feed. -/
def chompReturn (line : List Char) : List Char :=
  if line.getLast? = some '\r' then line.dropLast else line

/-- The lines of a text, each ended by a line feed, alone or after a carriage return. The last line
needs no end, and an end at the very end of the text opens no further line. -/
def lines (text : List Char) : List (List Char) :=
  go [] text
where
  /-- The lines of `text` after `line`, the backwards beginning of the current one. -/
  go (line : List Char) : List Char → List (List Char)
    | [] => if line.isEmpty then [] else [line.reverse]
    | '\n' :: rest => chompReturn line.reverse :: go [] rest
    | c :: rest => go (c :: line) rest

end GraphTypes.Text
