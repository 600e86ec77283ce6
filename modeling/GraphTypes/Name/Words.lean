import GraphTypes.Text.Letter

/-!
# Words of a name

Case conventions look at a name as a sequence of words. A word is a run of alphanumeric characters;
within such a run a new word begins at a capital that follows a small letter or a digit
(`userById`, `version2Beta`), and at the last capital of several when a small letter comes after it
(`XMLHttp` is `XML`, `Http`).
-/

namespace GraphTypes.Name

open GraphTypes.Text

/-- Whether a new word begins at `c`, which stands directly after `p` and before `next`. -/
def startsWord (p c : Char) (next : Option Char) : Bool :=
  isUppercase c && (isLowercase p || p.isDigit || (isUppercase p && next.any isLowercase))

/-- Puts a character in front of the first word. -/
def extendFirst (c : Char) : List (List Char) → List (List Char)
  | [] => [[c]]
  | word :: words => (c :: word) :: words

/-- The words of a name, in order; what separates them is dropped. -/
def words : List Char → List (List Char)
  | [] => []
  | c :: rest =>
    if isAlphanumeric c then
      match rest with
      | [] => [[c]]
      | d :: after =>
        if isAlphanumeric d && !startsWord c d after.head? then extendFirst c (words (d :: after))
        else [c] :: words (d :: after)
    else words rest

end GraphTypes.Name
