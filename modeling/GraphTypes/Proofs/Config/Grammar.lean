import GraphTypes.Config.Reference
import GraphTypes.Proofs.Text.Line

/-!
# The grammar of references

A text spells a reference (`Spells`) or is refused for a cause (`Refuses`), never both: reading
finds out which (`parse_follows_grammar`). A reference that was read can be written down
(`written`), and what is written then is read as the same reference again.
-/

namespace GraphTypes.Config

open GraphTypes.Text

/-! ### The grammar -/

/-- Whatever may follow a symbol: nothing, or something in angle brackets. -/
inductive IsArguments : List Char → Prop
  | none : IsArguments []
  | bracketed (inner : List Char) : IsArguments ('<' :: (inner ++ ['>']))

/-- How a text behind a `#` is divided. -/
structure Divides (rest symbol arguments : List Char) : Prop where
  parts : rest = symbol ++ arguments
  plain : '<' ∉ symbol
  bracket : ∀ c ∈ arguments.head?, c = '<'

namespace Reference

/-- What a text without white space at its ends spells. -/
inductive Spells : List Char → Reference → Prop
  | inline {text : List Char} (nonempty : text ≠ []) (plain : '#' ∉ text) :
    Spells text (.inline (String.ofList text))
  | external {front modulePath symbol arguments : List Char} (plain : '#' ∉ front)
    (trim : IsTrimOf modulePath front) (nonempty : modulePath ≠ []) (valid : isIdentifier symbol)
    (ended : IsArguments arguments) :
    Spells (front ++ '#' :: (symbol ++ arguments))
      (.external ⟨String.ofList modulePath, String.ofList symbol, String.ofList arguments⟩)

/-- Why a text without white space at its ends spells nothing. -/
inductive Refuses : List Char → ReferenceError → Prop
  | empty : Refuses [] .empty
  | missingModule {front rest : List Char} (plain : '#' ∉ front) (blank : ∀ c ∈ front, isBlank c) :
    Refuses (front ++ '#' :: rest) (.missingModule (String.ofList (front ++ '#' :: rest)))
  | invalidSymbol {front rest symbol arguments : List Char} (plain : '#' ∉ front)
    (path : ∃ c ∈ front, ¬ isBlank c) (divides : Divides rest symbol arguments)
    (invalid : ¬ isIdentifier symbol) :
    Refuses (front ++ '#' :: rest) (.invalidSymbol (String.ofList (front ++ '#' :: rest)))
  | unbalanced {front rest symbol arguments : List Char} (plain : '#' ∉ front)
    (path : ∃ c ∈ front, ¬ isBlank c) (divides : Divides rest symbol arguments)
    (valid : isIdentifier symbol) (nonempty : arguments ≠ [])
    (unended : arguments.getLast? ≠ some '>') :
    Refuses (front ++ '#' :: rest) (.unbalanced (String.ofList (front ++ '#' :: rest)))

/-- A reference as it is written. -/
def written : Reference → String
  | .inline text => text
  | .external ref => ref.modulePath ++ "#" ++ ref.symbol ++ ref.typeArguments

end Reference

/-! ### Symbols and their arguments -/

variable {front rest symbol arguments : List Char}

theorem Divides.of_isIdentifier (valid : isIdentifier symbol) (ended : IsArguments arguments) :
    Divides (symbol ++ arguments) symbol arguments where
  parts := rfl
  plain := by
    intro bracket
    cases symbol with
    | nil => cases bracket
    | cons c others =>
      rw [isIdentifier, Bool.and_eq_true, List.all_eq_true] at valid
      -- An angle bracket is neither a first character nor a later one.
      rcases List.mem_cons.mp bracket with rfl | bracket
      · exact absurd valid.1 (by decide)
      · exact absurd (valid.2 _ bracket) (by decide)
  bracket := by
    cases ended <;> simp

/-- A text is divided where its first angle bracket stands. -/
theorem divides_takeWhile (rest : List Char) :
    Divides rest (rest.takeWhile (· != '<')) (rest.dropWhile (· != '<')) where
  parts := List.takeWhile_append_dropWhile.symm
  plain := by
    intro bracket
    have differs := List.mem_takeWhile_imp bracket
    simp at differs
  bracket := by
    intro c hc
    simpa using not_head?_dropWhile (· != '<') rest c hc

theorem Divides.eq_takeWhile (h : Divides rest symbol arguments) :
    rest.takeWhile (· != '<') = symbol ∧ rest.dropWhile (· != '<') = arguments := by
  obtain ⟨rfl, plain, bracket⟩ := h
  have before : ∀ c ∈ symbol, (c != '<') = true := by
    rintro c hc
    rw [bne_iff_ne]
    rintro rfl
    exact plain hc
  rw [List.takeWhile_append_of_pos before, List.dropWhile_append_of_pos before]
  cases arguments with
  | nil => exact ⟨List.append_nil _, rfl⟩
  | cons c others =>
    obtain rfl : c = '<' := bracket c rfl
    exact ⟨List.append_nil _, rfl⟩

/-- What follows a symbol and ends in an angle bracket is in angle brackets. -/
theorem isArguments_iff (bracket : ∀ c ∈ arguments.head?, c = '<') :
    IsArguments arguments ↔ arguments = [] ∨ arguments.getLast? = some '>' := by
  constructor
  · rintro (_ | inner)
    · exact Or.inl rfl
    · right
      rw [← List.cons_append]
      exact List.getLast?_concat
  · rintro (rfl | last)
    · exact .none
    · obtain ⟨init, rfl⟩ := List.getLast?_eq_some_iff.mp last
      cases init with
      | nil => exact absurd (bracket '>' rfl) (by decide)
      | cons c inner =>
        obtain rfl : c = '<' := bracket c rfl
        exact .bracketed inner

/-! ### Reading -/

namespace Reference

theorem parseTrimmed_of_plain {text : List Char} (plain : '#' ∉ text) :
    parseTrimmed text =
      if text = [] then .error .empty else .ok (.inline (String.ofList text)) := by
  rw [parseTrimmed, cutAt_eq_none plain]
  simp only [List.isEmpty_iff]

/-- How a text with a `#` is read, by the parts of it. -/
theorem parseTrimmed_append (plain : '#' ∉ front) (divides : Divides rest symbol arguments) :
    parseTrimmed (front ++ '#' :: rest) =
      if trimChars front = [] then
        .error (.missingModule (String.ofList (front ++ '#' :: rest)))
      else if isIdentifier symbol = false then
        .error (.invalidSymbol (String.ofList (front ++ '#' :: rest)))
      else if arguments ≠ [] ∧ arguments.getLast? ≠ some '>' then
        .error (.unbalanced (String.ofList (front ++ '#' :: rest)))
      else .ok (.external ⟨String.ofList (trimChars front), String.ofList symbol,
        String.ofList arguments⟩) := by
  obtain ⟨hsymbol, harguments⟩ := divides.eq_takeWhile
  rw [parseTrimmed, cutAt_append plain]
  simp only [hsymbol, harguments, List.isEmpty_iff, Bool.and_eq_true, Bool.not_eq_true',
    bne_iff_ne, List.isEmpty_eq_false_iff]

theorem Spells.parseTrimmed_eq {text : List Char} {reference : Reference}
    (h : Spells text reference) : parseTrimmed text = .ok reference := by
  cases h with
  | inline nonempty plain => rw [parseTrimmed_of_plain plain, if_neg nonempty]
  | external plain trim nonempty valid ended =>
    have divides := Divides.of_isIdentifier valid ended
    obtain rfl := isTrimOf_iff.mp trim
    rw [parseTrimmed_append plain divides, if_neg nonempty, if_neg (by simp [valid]), if_neg]
    rintro ⟨something, unended⟩
    exact ((isArguments_iff divides.bracket).mp ended).elim something unended

theorem Refuses.parseTrimmed_eq {text : List Char} {cause : ReferenceError}
    (h : Refuses text cause) : parseTrimmed text = .error cause := by
  cases h with
  | empty => rfl
  | missingModule plain blank =>
    rw [parseTrimmed_append plain (divides_takeWhile _), if_pos (trimChars_eq_nil_iff.mpr blank)]
  | invalidSymbol plain named divides invalid =>
    rw [parseTrimmed_append plain divides, if_neg (trimChars_ne_nil named),
      if_pos (by simpa using invalid)]
  | unbalanced plain named divides valid something unended =>
    rw [parseTrimmed_append plain divides, if_neg (trimChars_ne_nil named),
      if_neg (by simp [valid]), if_pos ⟨something, unended⟩]

/-- Every text spells something or is refused for some cause. -/
theorem spells_or_refuses (text : List Char) :
    (∃ reference, Spells text reference) ∨ ∃ cause, Refuses text cause := by
  by_cases hash : '#' ∈ text
  · obtain ⟨front, rest, rfl, plain⟩ := List.eq_append_cons_of_mem hash
    have divides := divides_takeWhile rest
    by_cases path : ∃ c ∈ front, ¬ isBlank c
    · by_cases valid : isIdentifier (rest.takeWhile (· != '<'))
      · by_cases ended : IsArguments (rest.dropWhile (· != '<'))
        · have spelled :=
            Spells.external plain (isTrimOf_iff.mpr rfl) (trimChars_ne_nil path) valid ended
          rw [← divides.parts] at spelled
          exact Or.inl ⟨_, spelled⟩
        · rw [isArguments_iff divides.bracket, not_or] at ended
          exact Or.inr ⟨_, .unbalanced plain path divides valid ended.1 ended.2⟩
      · exact Or.inr ⟨_, .invalidSymbol plain path divides valid⟩
    · have blank : ∀ c ∈ front, isBlank c := by simpa using path
      exact Or.inr ⟨_, .missingModule plain blank⟩
  · cases text with
    | nil => exact Or.inr ⟨_, .empty⟩
    | cons c others => exact Or.inl ⟨_, .inline (List.cons_ne_nil _ _) hash⟩

theorem parseTrimmed_eq_ok_iff {text : List Char} {reference : Reference} :
    parseTrimmed text = .ok reference ↔ Spells text reference := by
  refine ⟨?_, Spells.parseTrimmed_eq⟩
  intro h
  rcases spells_or_refuses text with ⟨other, spelled⟩ | ⟨cause, refused⟩
  · rw [spelled.parseTrimmed_eq] at h
    cases h
    exact spelled
  · rw [refused.parseTrimmed_eq] at h
    cases h

theorem parseTrimmed_eq_error_iff {text : List Char} {cause : ReferenceError} :
    parseTrimmed text = .error cause ↔ Refuses text cause := by
  refine ⟨?_, Refuses.parseTrimmed_eq⟩
  intro h
  rcases spells_or_refuses text with ⟨reference, spelled⟩ | ⟨other, refused⟩
  · rw [spelled.parseTrimmed_eq] at h
    cases h
  · rw [refused.parseTrimmed_eq] at h
    cases h
    exact refused

/-! ### Writing -/

/-- What is written for a reference that was read spells it, and has no white space at its ends. -/
theorem Spells.spells_written {text : List Char} {reference : Reference} (trimmed : IsTrimmed text)
    (h : Spells text reference) :
    IsTrimmed reference.written.toList ∧ Spells reference.written.toList reference := by
  cases h with
  | inline nonempty plain =>
    rw [written, String.toList_ofList]
    exact ⟨trimmed, .inline nonempty plain⟩
  | @external front modulePath symbol arguments plain trim nonempty valid ended =>
    have text : (written (.external ⟨String.ofList modulePath, String.ofList symbol,
        String.ofList arguments⟩)).toList = modulePath ++ '#' :: (symbol ++ arguments) := by
      simp [written]
    rw [text]
    obtain ⟨path, before, after, rfl, -, -⟩ := trim
    have unmarked : '#' ∉ modulePath := by
      intro hash
      exact plain (List.mem_append_right _ (List.mem_append_left _ hash))
    refine ⟨⟨?_, ?_⟩, .external unmarked path.isTrimOf_self nonempty valid ended⟩
    · cases modulePath with
      | nil => exact absurd rfl nonempty
      | cons c others => exact path.first
    · -- The text that was read has the same end, behind the `#`.
      have last := trimmed.last
      rw [List.getLast?_append, List.getLast?_cons, Option.some_or] at last ⊢
      exact last

/-- A text is read without the white space at its ends, and as what is left spells; it is refused
for the cause that is reported. What is written for a reference that was read is read as the same
reference. -/
theorem parse_follows_grammar (value : String) :
    ∃ text, IsTrimOf text value.toList ∧
      (∀ reference, parse value = .ok reference ↔ Spells text reference) ∧
      (∀ cause, parse value = .error cause ↔ Refuses text cause) ∧
      ∀ reference, parse value = .ok reference → parse reference.written = .ok reference := by
  refine ⟨trimChars value.toList, isTrimOf_iff.mpr rfl, fun _ => parseTrimmed_eq_ok_iff,
    fun _ => parseTrimmed_eq_error_iff, ?_⟩
  intro reference read
  obtain ⟨trimmed, spelled⟩ :=
    (parseTrimmed_eq_ok_iff.mp read).spells_written (isTrimmed_trimChars value.toList)
  rw [parse, ← isTrimOf_iff.mp trimmed.isTrimOf_self]
  exact spelled.parseTrimmed_eq

end Reference

end GraphTypes.Config
