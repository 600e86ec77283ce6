import Mathlib.Data.List.Infix
import GraphTypes.Proofs.Config.Grammar

/-!
# Brackets of type arguments

Type arguments are balanced if their angle brackets are well nested and the first one is closed by
the last character. That can be seen by counting: more brackets are open than closed until the end
is reached, and then as many (`isBalanced_iff_count`). Reading a reference looks at the last
character alone, so whatever is balanced is accepted, but not all that is accepted is balanced
(`parse_judgesBalance_iff`).
-/

namespace GraphTypes.Config

open GraphTypes.Text

/-! ### Balance -/

/-- A text whose angle brackets are well nested. -/
inductive Nested : List Char → Prop
  | nil : Nested []
  | char {c : Char} {rest : List Char} (notOpening : c ≠ '<') (notClosing : c ≠ '>')
    (others : Nested rest) : Nested (c :: rest)
  | group {inner rest : List Char} (inside : Nested inner) (others : Nested rest) :
    Nested ('<' :: (inner ++ '>' :: rest))

/-- Type arguments whose brackets are well nested and of which the first is closed at the end and
not before. -/
def IsBalanced (arguments : List Char) : Prop :=
  ∃ inner, Nested inner ∧ arguments = '<' :: (inner ++ ['>'])

/-! ### Counting brackets -/

/-- A text that closes `n` brackets opened before it, and all of its own, none before it is
opened. -/
structure Closes (n : Nat) (text : List Char) : Prop where
  within : ∀ front, front <+: text → front.count '>' ≤ n + front.count '<'
  whole : text.count '>' = n + text.count '<'

section

variable {n : Nat} {c : Char} {text rest : List Char}

/-- What is counted in a text is counted in its first character and behind it. -/
theorem forall_prefix_cons {p : List Char → Prop} :
    (∀ front, front <+: c :: rest → p front) ↔ p [] ∧ ∀ front, front <+: rest → p (c :: front) := by
  constructor
  · intro h
    exact ⟨h [] List.nil_prefix, fun front hfront => h _ (List.cons_prefix_cons.mpr ⟨rfl, hfront⟩)⟩
  · rintro ⟨hnil, hcons⟩ front hfront
    rcases List.prefix_cons_iff.mp hfront with rfl | ⟨more, rfl, hmore⟩
    · exact hnil
    · exact hcons more hmore

theorem count_opening (front : List Char) :
    ('<' :: front).count '<' = front.count '<' + 1 ∧
      ('<' :: front).count '>' = front.count '>' :=
  ⟨List.count_cons_self, List.count_cons_of_ne (by decide)⟩

theorem closes_nil_iff : Closes n [] ↔ n = 0 := by
  constructor
  · intro h
    simpa using h.whole.symm
  · rintro rfl
    exact ⟨by simp, rfl⟩

/-- The first character opens or closes one bracket, or leaves their number as it is. -/
theorem closes_cons_iff :
    Closes n (c :: rest) ↔ (if c == '>' then 1 else 0) ≤ n + (if c == '<' then 1 else 0) ∧
      Closes (n + (if c == '<' then 1 else 0) - (if c == '>' then 1 else 0)) rest := by
  constructor
  · rintro ⟨within, whole⟩
    rw [forall_prefix_cons] at within
    simp only [List.count_cons] at within whole
    have first := within.2 [] List.nil_prefix
    rw [List.count_nil, List.count_nil] at first
    refine ⟨by omega, ?_, by omega⟩
    intro front hfront
    have bound := within.2 front hfront
    omega
  · rintro ⟨first, within, whole⟩
    refine ⟨forall_prefix_cons.mpr ⟨by simp, ?_⟩, ?_⟩
    · intro front hfront
      have bound := within front hfront
      simp only [List.count_cons]
      omega
    · simp only [List.count_cons]
      omega

theorem closes_char_iff (notOpening : c ≠ '<') (notClosing : c ≠ '>') :
    Closes n (c :: rest) ↔ Closes n rest := by
  simp [closes_cons_iff, notOpening, notClosing]

theorem closes_opening_iff : Closes n ('<' :: rest) ↔ Closes (n + 1) rest := by
  simp [closes_cons_iff]

theorem closes_closing_iff : Closes n ('>' :: rest) ↔ ∃ m, n = m + 1 ∧ Closes m rest := by
  rw [closes_cons_iff]
  cases n <;> simp

theorem Nested.closes_append (h : Nested text) (others : Closes n rest) :
    Closes n (text ++ rest) := by
  induction h generalizing n rest with
  | nil => exact others
  | char notOpening notClosing _ ih => exact (closes_char_iff notOpening notClosing).mpr (ih others)
  | group _ _ ihInside ihOthers =>
    rw [List.cons_append, List.append_assoc, closes_opening_iff]
    exact ihInside (closes_closing_iff.mpr ⟨n, rfl, ihOthers others⟩)

/-- Well nested pieces with the closing brackets between them that they leave over. -/
def NestedPieces : Nat → List Char → Prop
  | 0, text => Nested text
  | n + 1, text => ∃ front rest, text = front ++ '>' :: rest ∧ Nested front ∧ NestedPieces n rest

theorem NestedPieces.char (notOpening : c ≠ '<') (notClosing : c ≠ '>') (h : NestedPieces n rest) :
    NestedPieces n (c :: rest) := by
  cases n with
  | zero => exact .char notOpening notClosing h
  | succ n =>
    obtain ⟨front, others, rfl, nested, pieces⟩ := h
    exact ⟨c :: front, others, rfl, .char notOpening notClosing nested, pieces⟩

/-- A bracket that is opened makes one piece of the first two. -/
theorem NestedPieces.opening (h : NestedPieces (n + 1) rest) : NestedPieces n ('<' :: rest) := by
  obtain ⟨inner, rest, rfl, inside, pieces⟩ := h
  cases n with
  | zero => exact .group inside pieces
  | succ n =>
    obtain ⟨front, others, rfl, nested, pieces⟩ := pieces
    exact ⟨'<' :: (inner ++ '>' :: front), others, by simp, .group inside nested, pieces⟩

theorem Closes.nestedPieces (h : Closes n text) : NestedPieces n text := by
  induction text generalizing n with
  | nil =>
    obtain rfl := closes_nil_iff.mp h
    exact .nil
  | cons c rest ih =>
    by_cases opening : c = '<'
    · subst opening
      exact (ih (closes_opening_iff.mp h)).opening
    · by_cases closing : c = '>'
      · subst closing
        obtain ⟨m, rfl, others⟩ := closes_closing_iff.mp h
        exact ⟨[], rest, rfl, .nil, ih others⟩
      · exact .char opening closing (ih ((closes_char_iff opening closing).mp h))

theorem nested_iff_closes : Nested text ↔ Closes 0 text := by
  constructor
  · intro h
    rw [← List.append_nil text]
    exact h.closes_append (closes_nil_iff.mpr rfl)
  · exact Closes.nestedPieces

end

/-- More brackets are open than closed behind every beginning of a text, and none at its end. -/
structure CountsBalance (text : List Char) : Prop where
  within : ∀ front, front <+: text → front ≠ [] → front ≠ text → front.count '>' < front.count '<'
  whole : text.count '>' = text.count '<'

instance (text : List Char) : Decidable (CountsBalance text) :=
  decidable_of_iff
    ((∀ front ∈ text.inits, front ≠ [] → front ≠ text → front.count '>' < front.count '<') ∧
      text.count '>' = text.count '<')
    ⟨fun h => ⟨fun front hfront => h.1 front (List.mem_inits _ _ |>.mpr hfront), h.2⟩,
      fun h => ⟨fun front hfront => h.1 front (List.mem_inits _ _ |>.mp hfront), h.2⟩⟩

variable {arguments : List Char}

theorem isBalanced_iff_count (bracket : arguments.head? = some '<') :
    IsBalanced arguments ↔ CountsBalance arguments := by
  obtain ⟨rest, rfl⟩ := List.head?_eq_some_iff.mp bracket
  constructor
  · rintro ⟨inner, inside, heq⟩
    obtain rfl := (List.cons.inj heq).2
    obtain ⟨within, whole⟩ := nested_iff_closes.mp inside
    refine ⟨?_, ?_⟩
    · intro front hfront nonempty proper
      rcases List.prefix_cons_iff.mp hfront with rfl | ⟨more, rfl, hmore⟩
      · exact absurd rfl nonempty
      · rcases List.prefix_concat_iff.mp hmore with rfl | hmore
        · exact absurd rfl proper
        · have bound := within more hmore
          simp only [count_opening]
          omega
    · simp [whole]
  · rintro ⟨within, whole⟩
    rcases List.eq_nil_or_concat' rest with rfl | ⟨inner, c, rfl⟩
    · simp at whole
    · -- All brackets but the first are closed before the last character, which closes the first.
      have before := within ('<' :: inner) (by simp) (by simp) (by simp)
      simp only [count_opening, List.count_append] at before whole
      have last : c = '>' := by
        by_contra differs
        have none : [c].count '>' = 0 := List.count_eq_zero.mpr (by simpa using Ne.symm differs)
        omega
      subst last
      refine ⟨inner, nested_iff_closes.mpr ⟨?_, by simpa using whole⟩, rfl⟩
      intro front hfront
      have longer : '<' :: front <+: '<' :: (inner ++ ['>']) :=
        List.cons_prefix_cons.mpr ⟨rfl, hfront.trans (List.prefix_append _ _)⟩
      have proper : '<' :: front ≠ '<' :: (inner ++ ['>']) := by
        intro same
        have shorter := hfront.length_le
        have lengths := congrArg List.length same
        simp only [List.length_cons, List.length_append, List.length_nil] at lengths
        omega
      have bound := within ('<' :: front) longer (List.cons_ne_nil _ _) proper
      simp only [count_opening] at bound
      omega

theorem IsBalanced.getLast? (h : IsBalanced arguments) : arguments.getLast? = some '>' := by
  obtain ⟨inner, -, rfl⟩ := h
  rw [← List.cons_append]
  exact List.getLast?_concat

/-! ### What is accepted -/

/-- A text that refers to a symbol of a module and goes on with an angle bracket behind it. -/
structure Applies (value : String) (front symbol arguments : List Char) : Prop where
  trim : IsTrimOf (front ++ '#' :: (symbol ++ arguments)) value.toList
  plain : '#' ∉ front
  path : ∃ c ∈ front, ¬ isBlank c
  valid : isIdentifier symbol
  bracket : arguments.head? = some '<'

/-- Arguments are accepted if they are balanced, and refused as unbalanced otherwise. -/
structure JudgesBalance (outcome : Except ReferenceError Reference)
    (front symbol arguments : List Char) : Prop where
  accepted : outcome = .ok (.external ⟨String.ofList (trimChars front), String.ofList symbol,
    String.ofList arguments⟩) ↔ IsBalanced arguments
  refused : outcome = .error (.unbalanced (String.ofList (front ++ '#' :: (symbol ++ arguments)))) ↔
    ¬ IsBalanced arguments

namespace Reference

variable {value : String} {front symbol : List Char}

/-- Of the arguments the last character alone is looked at. -/
theorem parse_of_applies (h : Applies value front symbol arguments) :
    parse value = if arguments.getLast? = some '>' then
        .ok (.external ⟨String.ofList (trimChars front), String.ofList symbol,
          String.ofList arguments⟩)
      else .error (.unbalanced (String.ofList (front ++ '#' :: (symbol ++ arguments)))) := by
  have divides : Divides (symbol ++ arguments) symbol arguments := by
    refine ⟨rfl, (Divides.of_isIdentifier h.valid .none).plain, ?_⟩
    intro c hc
    rw [h.bracket] at hc
    exact (Option.mem_some.mp hc).symm
  have something : arguments ≠ [] := by
    rintro rfl
    cases h.bracket
  rw [parse, ← isTrimOf_iff.mp h.trim, parseTrimmed_append h.plain divides,
    if_neg (trimChars_ne_nil h.path), if_neg (by simp [h.valid])]
  by_cases ended : arguments.getLast? = some '>' <;> simp [ended, something]

/-- Balanced arguments are accepted. That they alone are, and all others refused as unbalanced,
holds exactly for arguments that do not end in a closing bracket or whose brackets are balanced by
count. -/
theorem parse_judgesBalance_iff (h : Applies value front symbol arguments) :
    (IsBalanced arguments → parse value = .ok (.external ⟨String.ofList (trimChars front),
      String.ofList symbol, String.ofList arguments⟩)) ∧
    (JudgesBalance (parse value) front symbol arguments ↔
      (arguments.getLast? = some '>' → CountsBalance arguments)) := by
  rw [parse_of_applies h, ← isBalanced_iff_count h.bracket]
  refine ⟨fun balanced => if_pos balanced.getLast?, ?_⟩
  by_cases ended : arguments.getLast? = some '>'
  · rw [if_pos ended]
    constructor
    · rintro ⟨accepted, -⟩ -
      exact accepted.mp rfl
    · intro balanced
      have balanced := balanced ended
      exact ⟨iff_of_true rfl balanced, iff_of_false nofun (not_not_intro balanced)⟩
  · rw [if_neg ended]
    have open' : ¬ IsBalanced arguments := fun balanced => ended balanced.getLast?
    exact iff_of_true ⟨iff_of_false nofun open', iff_of_true rfl open'⟩ (absurd · ended)

/-- A bracket that is not closed at all passes, as the last character closes another one. -/
theorem parse_accepts_unclosed :
    parse "./models#Page<Edge<\x7bT\x7d>" =
        .ok (.external ⟨"./models", "Page", "<Edge<\x7bT\x7d>"⟩) ∧
      ¬ "=>".toList <:+: "<Edge<\x7bT\x7d>".toList ∧ ¬ IsBalanced "<Edge<\x7bT\x7d>".toList := by
  refine ⟨by decide +kernel, by decide +kernel, ?_⟩
  rw [isBalanced_iff_count (by decide +kernel)]
  decide +kernel

/-- Brackets in brackets, with white space around the reference. -/
theorem parse_judgesBalance_nested :
    Applies " ./models#Page<Edge<\x7bT\x7d>>\n" "./models".toList "Page".toList
        "<Edge<\x7bT\x7d>>".toList ∧
      CountsBalance "<Edge<\x7bT\x7d>>".toList ∧
      JudgesBalance (parse " ./models#Page<Edge<\x7bT\x7d>>\n") "./models".toList "Page".toList
        "<Edge<\x7bT\x7d>>".toList ∧
      parse " ./models#Page<Edge<\x7bT\x7d>>\n" =
        .ok (.external ⟨"./models", "Page", "<Edge<\x7bT\x7d>>"⟩) := by
  have applies : Applies " ./models#Page<Edge<\x7bT\x7d>>\n" "./models".toList "Page".toList
      "<Edge<\x7bT\x7d>>".toList :=
    { trim := isTrimOf_iff.mpr (by decide +kernel)
      plain := by decide +kernel
      path := ⟨'.', by decide +kernel, by decide⟩
      valid := by decide +kernel
      bracket := by decide +kernel }
  have balance : CountsBalance "<Edge<\x7bT\x7d>>".toList := by decide +kernel
  obtain ⟨accepts, judges⟩ := parse_judgesBalance_iff applies
  refine ⟨applies, balance, judges.mpr fun _ => balance, ?_⟩
  exact accepts ((isBalanced_iff_count applies.bracket).mpr balance)

end Reference

end GraphTypes.Config
