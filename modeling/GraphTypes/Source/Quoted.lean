import GraphTypes.Text.Line

/-!
# Quoted texts of GraphQL

The two spellings of a text: `"…"` on one line with escapes, and block strings between triple
quotes, whose common indentation belongs to the layout of the file and not to the text.
-/

namespace GraphTypes.Source

open GraphTypes.Text

/-! ### Texts on one line -/

/-- The value of a hexadecimal digit. -/
def hexDigit? (c : Char) : Option Nat :=
  if '0' ≤ c ∧ c ≤ '9' then some (c.toNat - '0'.toNat)
  else if 'a' ≤ c ∧ c ≤ 'f' then some (c.toNat - 'a'.toNat + 10)
  else if 'A' ≤ c ∧ c ≤ 'F' then some (c.toNat - 'A'.toNat + 10)
  else none

/-- The number that hexadecimal digits spell. -/
def hexNumber? (digits : List Char) : Option Nat :=
  digits.foldlM (fun n c => (hexDigit? c).map (16 * n + ·)) 0

/-- The character with a given code point; none for a surrogate. -/
def charOf? (n : Nat) : Option Char :=
  if n.isValidChar then some (Char.ofNat n) else none

/-- The character that `\u` and four further characters spell. The first of them may be a plus
sign. -/
def unicodeEscape? (a b c d : Char) : Option Char :=
  (hexNumber? (if a = '+' then [b, c, d] else [a, b, c, d])).bind charOf?

/-- The character that a backslash and one further character spell. `\b` is the control character
U+0010. -/
def simpleEscape? : Char → Option Char
  | '"' => some '"'
  | '\\' => some '\\'
  | '/' => some '/'
  | 'b' => some '\x10'
  | 'f' => some '\x0c'
  | 'n' => some '\n'
  | 'r' => some '\r'
  | 't' => some '\t'
  | _ => none

/-- Reads on behind an opening quote: the text up to the closing quote, and what follows it. -/
def readQuoted : List Char → Option (List Char × List Char)
  | [] => none
  | '"' :: rest => some ([], rest)
  | '\n' :: _ => none
  | '\\' :: 'u' :: a :: b :: c :: d :: rest => do
    let e ← unicodeEscape? a b c d
    let (text, rest) ← readQuoted rest
    return (e :: text, rest)
  | '\\' :: c :: rest => do
    let e ← simpleEscape? c
    let (text, rest) ← readQuoted rest
    return (e :: text, rest)
  | c :: rest => do
    let (text, rest) ← readQuoted rest
    return (c :: text, rest)

/-! ### Block strings -/

/-- Reads on behind an opening `"""`: the lines as they stand up to the closing `"""`, and what
follows it. Three quotes after a backslash do not close. -/
def readBlock : List Char → Option (List Char × List Char)
  | [] => none
  | '\\' :: '"' :: '"' :: '"' :: rest => do
    let (text, rest) ← readBlock rest
    return ('\\' :: '"' :: '"' :: '"' :: text, rest)
  | '"' :: '"' :: '"' :: rest => some ([], rest)
  | c :: rest => do
    let (text, rest) ← readBlock rest
    return (c :: text, rest)

/-- How many bytes a text takes up. -/
def width (text : List Char) : Nat := text.foldr (fun c n => c.utf8Size + n) 0

/-- The width of the white space in front of a line; none for a blank line. -/
def indentation? (line : List Char) : Option Nat :=
  if line.all isBlank then none else some (width (line.takeWhile isBlank))

/-- A line without the characters within its first `n` bytes. -/
def dropWidth (n : Nat) : List Char → List Char
  | [] => []
  | c :: rest => if c.utf8Size ≤ n then dropWidth (n - c.utf8Size) rest else c :: rest

/-- A line without the common indentation. A line too short to have it stays as it is. -/
def unindent (n : Nat) (line : List Char) : List Char :=
  if n ≤ width line then dropWidth n line else line

/-- Writes three quotes where three quotes stand behind a backslash. -/
def unescapeBlock : List Char → List Char
  | [] => []
  | '\\' :: '"' :: '"' :: '"' :: rest => '"' :: '"' :: '"' :: unescapeBlock rest
  | c :: rest => c :: unescapeBlock rest

/-- The text of a block string. The indentation that all lines but the first have in common is taken
away from them, and blank lines at the beginning and the end are left out. -/
def blockText (raw : List Char) : List Char :=
  let all := lines raw
  let common := ((all.drop 1).filterMap indentation?).min?.getD 0
  let level := all.take 1 ++ (all.drop 1).map (unindent common)
  let blank := fun line : List Char => line.all isBlank
  let inner := ((level.dropWhile blank).reverse.dropWhile blank).reverse
  ['\n'].intercalate (inner.map unescapeBlock)

end GraphTypes.Source
