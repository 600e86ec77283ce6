import GraphTypes.Text.Letter
import GraphTypes.Text.Table.CaseMapping

/-!
# Upper and lower case

The full Unicode case mappings, one character at a time (`upper`, `lower`) and of a whole text
(`toUpper`, `toLower`). They differ in one place: in a whole text a capital sigma that ends a word
becomes the final sigma `ς`, alone it always becomes `σ`.
-/

namespace GraphTypes.Text

/-- Upper case of one character; `ß` becomes two. -/
def upper (c : Char) : List Char :=
  if isAscii c then [c.toUpper]
  else match Table.toUpperExpanded.lookup c.toNat with
    | some expansion => expansion.map Char.ofNat
    | none => [Char.ofNat (Shift.move Table.toUpper c.toNat)]

/-- Lower case of one character, whatever stands beside it. -/
def lower (c : Char) : List Char :=
  if isAscii c then [c.toLower]
  else match Table.toLowerExpanded.lookup c.toNat with
    | some expansion => expansion.map Char.ofNat
    | none => [Char.ofNat (Shift.move Table.toLower c.toNat)]

/-- Upper case of a text. -/
def toUpper (text : List Char) : List Char := text.flatMap upper

/-- Whether a cased letter comes next once the ignorable characters are passed over. -/
def reachesCased (text : List Char) : Bool :=
  (text.dropWhile isCaseIgnorable).head?.any isCased

/-- Lower case of the second text, which follows the first; the first is given backwards. -/
def toLowerAfter (before : List Char) : List Char → List Char
  | [] => []
  | c :: rest =>
    let small :=
      if c = 'Σ' then [if reachesCased before && !reachesCased rest then 'ς' else 'σ']
      else lower c
    small ++ toLowerAfter (c :: before) rest

/-- Lower case of a text, with the final sigma at the end of a word. -/
def toLower (text : List Char) : List Char := toLowerAfter [] text

/-- The first character in upper case, all others in lower case. -/
def capitalize : List Char → List Char
  | [] => []
  | c :: rest => upper c ++ rest.flatMap lower

end GraphTypes.Text
