import GraphTypes.Json.Basic
import GraphTypes.Json.Number
import GraphTypes.Source.Quoted

/-!
# Tokens of JSON

The lexical grammar of JSON, without any leniency: no comments, no other white space than blank, tab
and line ends, no raw control characters in a text, no needless zeros in a number.
-/

namespace GraphTypes.Json

open GraphTypes.Source

/-- A word of a JSON text. -/
inductive Token where
  /-- A bracket, a brace, a comma or a colon. -/
  | mark (c : Char)
  /-- A value without parts. -/
  | leaf (value : Json)

namespace Token

/-! ### Texts

A text is first read as a list of code points, in which an escape may stand for half of a surrogate
pair; then the halves are put together. -/

/-- What a backslash and one further character stand for. -/
def simpleEscape? : Char → Option Char
  | '"' => some '"'
  | '\\' => some '\\'
  | '/' => some '/'
  | 'b' => some '\x08'
  | 'f' => some '\x0c'
  | 'n' => some '\n'
  | 'r' => some '\r'
  | 't' => some '\t'
  | _ => none

/-- Reads on behind an opening quote: the code points up to the closing quote, and what follows. -/
def readString : List Char → Option (List Nat × List Char)
  | [] => none
  | '"' :: rest => some ([], rest)
  | '\\' :: 'u' :: a :: b :: c :: d :: rest => do
    let n ← hexNumber? [a, b, c, d]
    let (points, rest) ← readString rest
    return (n :: points, rest)
  | '\\' :: c :: rest => do
    let e ← simpleEscape? c
    let (points, rest) ← readString rest
    return (e.toNat :: points, rest)
  | c :: rest =>
    if c.toNat < 0x20 then none
    else do
      let (points, rest) ← readString rest
      return (c.toNat :: points, rest)

/-- The first half of a surrogate pair. -/
def isHighSurrogate (n : Nat) : Bool := 0xD800 ≤ n && n ≤ 0xDBFF

/-- The second half of a surrogate pair. -/
def isLowSurrogate (n : Nat) : Bool := 0xDC00 ≤ n && n ≤ 0xDFFF

/-- Puts the surrogate pairs among code points together; fails if a half is left alone. -/
def joinPairs : List Nat → Option (List Char)
  | [] => some []
  | high :: low :: rest =>
    if isHighSurrogate high && isLowSurrogate low then
      (joinPairs rest).map (Char.ofNat (0x10000 + (high - 0xD800) * 0x400 + (low - 0xDC00)) :: ·)
    else do
      let c ← charOf? high
      let rest ← joinPairs (low :: rest)
      return c :: rest
  | [n] => (charOf? n).map ([·])

/-! ### Splitting a text -/

/-- White space of JSON. -/
def isSpace (c : Char) : Bool := c == ' ' || c == '\t' || c == '\n' || c == '\r'

/-- The punctuation of JSON. -/
def isMark (c : Char) : Bool := "[]\x7b\x7d,:".toList.contains c

/-- Takes a word off the front of a text. -/
def dropWord (word : String) (text : List Char) : Option (List Char) :=
  if word.toList.isPrefixOf text then some (text.drop word.length) else none

/-- Reads the token that begins with `c`, given what follows `c`: the token and the rest. -/
def read (c : Char) (rest : List Char) : Option (Token × List Char) :=
  if isMark c then some (mark c, rest)
  else if c = '"' then do
    let (points, rest) ← readString rest
    return (leaf (string ((joinPairs points).map String.ofList)), rest)
  else if c = 'n' then (dropWord "ull" rest).map (leaf null, ·)
  else if c = 't' then (dropWord "rue" rest).map (leaf (bool true), ·)
  else if c = 'f' then (dropWord "alse" rest).map (leaf (bool false), ·)
  else do
    let (numeral, rest) ← Numeral.read (c :: rest)
    return (leaf (number numeral.inRange), rest)

/-! ### What is left is shorter -/

theorem readString_of_append {after rest : List Char} {n : Nat} {points : List Nat}
    (h : (do
      let (points, rest) ← readString after
      return (n :: points, rest)) = some (points, rest)) :
    ∃ others, readString after = some (others, rest) := by
  obtain ⟨⟨others, left⟩, hothers, heq⟩ := Option.bind_eq_some_iff.mp h
  cases heq
  exact ⟨others, hothers⟩

theorem readString_length {text rest : List Char} {points : List Nat}
    (h : readString text = some (points, rest)) : rest.length < text.length := by
  fun_induction readString text generalizing points rest with
  | case1 => cases h
  | case2 after =>
    cases h
    exact Nat.lt_succ_self _
  | case3 a b c d after ih =>
    obtain ⟨n, -, h⟩ := Option.bind_eq_some_iff.mp h
    obtain ⟨others, hothers⟩ := readString_of_append h
    have := ih hothers
    simp only [List.length_cons]
    omega
  | case4 c after _ ih =>
    obtain ⟨e, -, h⟩ := Option.bind_eq_some_iff.mp h
    obtain ⟨others, hothers⟩ := readString_of_append h
    have := ih hothers
    simp only [List.length_cons]
    omega
  | case5 => cases h
  | case6 c after _ _ _ _ ih =>
    obtain ⟨others, hothers⟩ := readString_of_append h
    exact Nat.lt_succ_of_lt (ih hothers)

theorem dropWord_length {word : String} {text rest : List Char}
    (h : dropWord word text = some rest) : rest.length ≤ text.length := by
  obtain ⟨-, rfl⟩ := by simpa [dropWord] using h
  simp

/-- A token takes at least its first character. -/
theorem read_length {c : Char} {rest after : List Char} {t : Token}
    (h : read c rest = some (t, after)) : after.length ≤ rest.length := by
  unfold read at h
  split at h
  · simp_all
  split at h
  · obtain ⟨⟨points, r⟩, hr, hs⟩ := Option.bind_eq_some_iff.mp h
    have := readString_length hr
    grind
  split at h
  · obtain ⟨r, hr, hs⟩ := Option.map_eq_some_iff.mp h
    have := dropWord_length hr
    grind
  split at h
  · obtain ⟨r, hr, hs⟩ := Option.map_eq_some_iff.mp h
    have := dropWord_length hr
    grind
  split at h
  · obtain ⟨r, hr, hs⟩ := Option.map_eq_some_iff.mp h
    have := dropWord_length hr
    grind
  · obtain ⟨⟨numeral, r⟩, hr, hs⟩ := Option.bind_eq_some_iff.mp h
    have := Numeral.read_length hr
    grind

/-- The tokens of a text. -/
def tokens? : List Char → Option (List Token)
  | [] => some []
  | c :: rest =>
    if isSpace c then tokens? rest
    else match _h : read c rest with
      | none => none
      | some (t, after) => (tokens? after).map (t :: ·)
termination_by text => text.length
decreasing_by
  · exact Nat.lt_succ_self _
  · exact Nat.lt_succ_of_le (read_length _h)

end Token

end GraphTypes.Json
