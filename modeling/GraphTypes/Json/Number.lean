/-!
# Numbers of JSON

A `Numeral` is a number as it is written, without its sign. `Numeral.read` is its grammar, and
`inRange` says whether a double can hold it. For that its digits are gathered in 64 bits, digits
that find no room there only count as places, and the digits and the power of ten are rounded to
doubles one by one before they are multiplied. So a number within a hair of the greatest double is
judged by the product of two roundings, and not by its exact value.
-/

namespace GraphTypes.Json

/-- A number as it is written: digits before and behind the decimal point, and a power of ten. -/
structure Numeral where
  whole : List Char
  fraction : List Char
  exponent : Int
  deriving DecidableEq, Repr

namespace Numeral

/-! ### Grammar -/

/-- The digits in front of a text, of which there must be one at least, and what follows. -/
def readDigits (text : List Char) : Option (List Char × List Char) :=
  let digits := text.takeWhile Char.isDigit
  if digits.isEmpty then none else some (digits, text.dropWhile Char.isDigit)

/-- The digits in front of the decimal point, without needless zeros, and what follows. -/
def readWhole : List Char → Option (List Char × List Char)
  | '0' :: rest => if rest.head?.any Char.isDigit then none else some (['0'], rest)
  | text => readDigits text

/-- The digits behind a decimal point, if there is one, and what follows. -/
def readFraction : List Char → Option (List Char × List Char)
  | '.' :: rest => readDigits rest
  | text => some ([], text)

/-- The value of a digit. -/
def digit (c : Char) : Nat := c.toNat - '0'.toNat

/-- The number that digits spell. -/
def natOf (digits : List Char) : Nat := digits.foldl (fun n c => 10 * n + digit c) 0

/-- The exponent, zero if there is none, and what follows. -/
def readExponent : List Char → Option (Int × List Char)
  | [] => some (0, [])
  | c :: rest =>
    if c = 'e' ∨ c = 'E' then
      match rest with
      | '-' :: rest => (readDigits rest).map fun (digits, rest) => (-(natOf digits : Int), rest)
      | '+' :: rest => (readDigits rest).map fun (digits, rest) => ((natOf digits : Int), rest)
      | rest => (readDigits rest).map fun (digits, rest) => ((natOf digits : Int), rest)
    else some (0, c :: rest)

/-- Reads a number, with its sign, off the front of a text. -/
def read (text : List Char) : Option (Numeral × List Char) := do
  let text := if text.head? = some '-' then text.drop 1 else text
  let (whole, rest) ← readWhole text
  let (fraction, rest) ← readFraction rest
  let (exponent, rest) ← readExponent rest
  return ({ whole, fraction, exponent }, rest)

/-! ### Range -/

/-- Appends digits to a number as long as 64 bits hold it; what is left of the digits comes with
it. -/
def gather (n : Nat) : List Char → Nat × List Char
  | [] => (n, [])
  | c :: rest =>
    if 10 * n + digit c < Nat.pow 2 64 then gather (10 * n + digit c) rest else (n, c :: rest)

/-- A number `m` of 64 bits and a power `e` so that the numeral is about `m * 10 ^ e`. -/
def scaled (x : Numeral) : Nat × Int :=
  let (m, dropped) := gather 0 x.whole
  let (m, ignored) := gather m x.fraction
  (m, dropped.length + ignored.length - x.fraction.length + x.exponent)

/-- The nearest number with no more than 53 binary digits before its zeros. Halfway between two it
is the one whose last digit is even. -/
def roundToDouble (n : Nat) : Nat :=
  let unit := Nat.pow 2 (n.log2 - 52)
  let (q, r) := (n / unit, n % unit)
  if unit < 2 * r ∨ (2 * r = unit ∧ q % 2 = 1) then (q + 1) * unit else q * unit

/-- The least number that is rounded to infinity. -/
def overflowThreshold : Nat := Nat.pow 2 1024 - Nat.pow 2 970

/-- Whether a double can hold a number. What is too close to zero becomes zero. -/
def inRange (x : Numeral) : Bool :=
  let (m, e) := x.scaled
  m = 0 || e ≤ 0
    || (e ≤ 308 && roundToDouble m * roundToDouble (Nat.pow 10 e.toNat) < overflowThreshold)

/-! ### What is left is shorter -/

theorem readDigits_length {text digits rest : List Char}
    (h : readDigits text = some (digits, rest)) : rest.length < text.length := by
  have parts : _ ++ _ = text := List.takeWhile_append_dropWhile (p := Char.isDigit)
  have lengths := congrArg List.length parts
  rw [List.length_append] at lengths
  simp only [readDigits, Option.ite_none_left_eq_some, Option.some.injEq, Prod.mk.injEq,
    List.isEmpty_iff, ← List.length_pos_iff] at h
  obtain ⟨nonempty, -, rfl⟩ := h
  omega

theorem readWhole_length {text digits rest : List Char}
    (h : readWhole text = some (digits, rest)) : rest.length < text.length := by
  unfold readWhole at h
  split at h
  · split at h <;> simp_all
  · exact readDigits_length h

theorem readFraction_length {text digits rest : List Char}
    (h : readFraction text = some (digits, rest)) : rest.length ≤ text.length := by
  unfold readFraction at h
  split at h
  · exact Nat.le_succ_of_le (Nat.le_of_lt (readDigits_length h))
  · simp_all

theorem readExponent_length {text rest : List Char} {e : Int}
    (h : readExponent text = some (e, rest)) : rest.length ≤ text.length := by
  unfold readExponent at h
  split at h
  · simp_all
  split at h
  · split at h
    all_goals
      obtain ⟨⟨digits, r⟩, hr, hs⟩ := Option.map_eq_some_iff.mp h
      have := readDigits_length hr
      simp_all only [Prod.mk.injEq, List.length_cons]
      omega
  · simp_all

/-- A number takes at least one character. -/
theorem read_length {text rest : List Char} {x : Numeral} (h : read text = some (x, rest)) :
    rest.length < text.length := by
  obtain ⟨⟨whole, r₁⟩, h₁, h⟩ := Option.bind_eq_some_iff.mp h
  obtain ⟨⟨fraction, r₂⟩, h₂, h⟩ := Option.bind_eq_some_iff.mp h
  obtain ⟨⟨exponent, r₃⟩, h₃, h⟩ := Option.bind_eq_some_iff.mp h
  have := readWhole_length h₁
  have := readFraction_length h₂
  have := readExponent_length h₃
  grind

end Numeral

end GraphTypes.Json
