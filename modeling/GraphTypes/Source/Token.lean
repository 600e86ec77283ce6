import GraphTypes.Source.Quoted

/-!
# Tokens of GraphQL

Schema texts and operation documents share one vocabulary. `tokens?` splits a text into it and
leaves out white space, commas, byte order marks and comments; a text with a character or a literal
outside the vocabulary has no tokens. Literals carry no more than their readers use: of a number it
is enough that it is well formed.
-/

namespace GraphTypes.Source

/-- A word of a schema text or an operation document. -/
inductive Token where
  /-- A punctuator of one character. -/
  | mark (c : Char)
  /-- The punctuator `...`. -/
  | ellipsis
  | name (text : String)
  | number
  /-- A quoted text or a block string. -/
  | quoted (text : String)
  deriving DecidableEq, Repr

namespace Token

/-! ### Character classes -/

/-- What may stand anywhere between two tokens. -/
def isIgnored (c : Char) : Bool :=
  c == ' ' || c == '\t' || c == '\r' || c == '\n' || c == ',' || c == '\ufeff'

/-- The punctuators of one character. -/
def isMark (c : Char) : Bool := "!$:=@|&()[]\x7b\x7d".toList.contains c

/-- A character that a name can begin with. -/
def startsName (c : Char) : Bool := c.isAlpha || c == '_'

/-- A character that a name can hold. -/
def inName (c : Char) : Bool := c.isAlphanum || c == '_'

/-- What ends a number: blanks, a comma, a comment or a punctuator. -/
def endsNumber (c : Char) : Bool :=
  c == ' ' || c == '\n' || c == '\r' || c == '\t' || c == ',' || c == '#' || isMark c

/-! ### Numbers -/

/-- Digits after an optional minus sign, without needless zeros in front. -/
def isInteger (text : List Char) : Bool :=
  let digits := if text.head? = some '-' then text.drop 1 else text
  digits == ['0'] || (!digits.isEmpty && digits.head? != some '0' && digits.all Char.isDigit)

/-- Whether an integer fits 64 bits. -/
def fitsWord (text : List Char) : Bool :=
  let bound := Int.ofNat (Nat.pow 2 63)
  match (String.ofList text).toInt? with
  | some n => -bound ≤ n && n < bound
  | none => false

/-- The digits behind the decimal point. -/
def isFraction (text : List Char) : Bool := !text.isEmpty && text.all Char.isDigit

/-- An exponent: digits after an optional sign. Without a sign the first digit is one of `1` to
`8`. -/
def isExponent : List Char → Bool
  | [] => false
  | c :: rest =>
    rest.all Char.isDigit && (if c = '-' ∨ c = '+' then !rest.isEmpty else '0' < c && c < '9')

/-- Cuts a text at the last character that satisfies `p`. -/
def cutAtLast (p : Char → Bool) (text : List Char) : Option (List Char × List Char) :=
  let after := (text.reverse.takeWhile (!p ·)).reverse
  if after.length < text.length then some (text.take (text.length - after.length - 1), after)
  else none

/-- Whether a run of characters that begins like a number is one. -/
def isNumber (text : List Char) : Bool :=
  let plain := fun t : List Char => match cutAtLast (· == '.') t with
    | none => isInteger t
    | some (whole, fraction) => isInteger whole && isFraction fraction
  match cutAtLast (fun c => c == 'e' || c == 'E') text with
  | some (significand, exponent) => plain significand && isExponent exponent
  | none => plain text && (text.contains '.' || fitsWord text)

/-! ### Splitting a text -/

/-- Reads the token that begins with `c`, given what follows `c`: the token and the rest. -/
def read (c : Char) (rest : List Char) : Option (Token × List Char) :=
  if isMark c then some (mark c, rest)
  else if startsName c then
    some (name (String.ofList (c :: rest.takeWhile inName)), rest.dropWhile inName)
  else if c == '-' || c.isDigit then
    if isNumber (c :: rest.takeWhile (!endsNumber ·)) then
      some (number, rest.dropWhile (!endsNumber ·))
    else none
  else match c, rest with
    | '.', '.' :: '.' :: rest => some (ellipsis, rest)
    | '"', '"' :: '"' :: rest => do
      let (raw, rest) ← readBlock rest
      return (quoted (String.ofList (blockText raw)), rest)
    | '"', rest => do
      let (text, rest) ← readQuoted rest
      return (quoted (String.ofList text), rest)
    | _, _ => none

/-! ### What is left is shorter -/

theorem length_dropWhile_le (p : Char → Bool) (text : List Char) :
    (text.dropWhile p).length ≤ text.length :=
  (List.dropWhile_sublist p).length_le

theorem readQuoted_length {text out rest : List Char} (h : readQuoted text = some (out, rest)) :
    rest.length < text.length := by
  fun_induction readQuoted text generalizing out rest <;>
    simp_all [Option.bind_eq_some_iff] <;> grind

theorem readBlock_length {text out rest : List Char} (h : readBlock text = some (out, rest)) :
    rest.length < text.length := by
  fun_induction readBlock text generalizing out rest <;>
    simp_all [Option.bind_eq_some_iff] <;> grind

/-- A token takes at least its first character. -/
theorem read_length {c : Char} {rest after : List Char} {t : Token}
    (h : read c rest = some (t, after)) : after.length ≤ rest.length := by
  unfold read at h
  split at h
  · simp_all
  split at h
  · obtain ⟨_, rfl⟩ := by simpa using h
    exact length_dropWhile_le _ _
  split at h
  · split at h
    · obtain ⟨_, rfl⟩ := by simpa using h
      exact length_dropWhile_le _ _
    · simp at h
  split at h
  · obtain ⟨_, rfl⟩ := by simpa using h
    simp only [List.length_cons]
    omega
  · obtain ⟨⟨raw, r⟩, hr, hs⟩ := Option.bind_eq_some_iff.mp h
    have := readBlock_length hr
    simp_all only [List.length_cons]
    grind
  · obtain ⟨⟨text, r⟩, hr, hs⟩ := Option.bind_eq_some_iff.mp h
    have := readQuoted_length hr
    grind
  · simp at h

/-- The tokens of a text. -/
def tokens? : List Char → Option (List Token)
  | [] => some []
  | c :: rest =>
    if isIgnored c then tokens? rest
    else if c == '#' then tokens? (rest.dropWhile fun c => c != '\n' && c != '\r')
    else match _h : read c rest with
      | none => none
      | some (t, after) => (tokens? after).map (t :: ·)
termination_by text => text.length
decreasing_by
  · exact Nat.lt_succ_self _
  · exact Nat.lt_succ_of_le (length_dropWhile_le _ _)
  · exact Nat.lt_succ_of_le (read_length _h)

end Token

end GraphTypes.Source
