import GraphTypes.Text.Table.Alphabetic
import GraphTypes.Text.Table.Numeric
import GraphTypes.Text.Table.Cased
import GraphTypes.Text.Table.CaseIgnorable

/-!
# Character classes

The Unicode classes that names and configuration texts are read with. Each class answers for ASCII
by core's own test and looks further characters up in its table, so a fact about ASCII names never
meets a table.
-/

namespace GraphTypes.Text

/-- The seven-bit characters. -/
def isAscii (c : Char) : Bool := c.toNat < 128

/-- Letters, letter-like numbers and the marks that count as part of a letter. -/
def isAlphabetic (c : Char) : Bool :=
  if isAscii c then c.isAlpha else Stride.anyContains Table.alphabetic c.toNat

/-- Digits of every script, letter numbers (`Ⅷ`) and other numbers (`²`, `½`). -/
def isNumeric (c : Char) : Bool :=
  if isAscii c then c.isDigit else Stride.anyContains Table.numeric c.toNat

/-- A character that can be part of a word. -/
def isAlphanumeric (c : Char) : Bool := isAlphabetic c || isNumeric c

/-- Capital letters. -/
def isUppercase (c : Char) : Bool :=
  if isAscii c then c.isUpper else Stride.anyContains Table.uppercase c.toNat

/-- Small letters. -/
def isLowercase (c : Char) : Bool :=
  if isAscii c then c.isLower else Stride.anyContains Table.lowercase c.toNat

/-- A letter that has case: capital, small or title case. -/
def isCased (c : Char) : Bool :=
  isUppercase c || isLowercase c || Stride.anyContains Table.titlecase c.toNat

/-- A character that case rules look through, such as an apostrophe or a combining accent. -/
def isCaseIgnorable (c : Char) : Bool :=
  if isAscii c then c == '\'' || c == '.' || c == ':' || c == '^' || c.toNat == 0x60
  else Stride.anyContains Table.caseIgnorable c.toNat

/-- White space: the Unicode property `White_Space`, which holds the no-break spaces too. -/
def isBlank (c : Char) : Bool :=
  (0x09 ≤ c.toNat && c.toNat ≤ 0x0D) || c.toNat == 0x20 || c.toNat == 0x85 || c.toNat == 0xA0
    || c.toNat == 0x1680 || (0x2000 ≤ c.toNat && c.toNat ≤ 0x200A) || c.toNat == 0x2028
    || c.toNat == 0x2029 || c.toNat == 0x202F || c.toNat == 0x205F || c.toNat == 0x3000

end GraphTypes.Text
