import Mathlib.Data.List.Basic
import GraphTypes.Name.Convention
import GraphTypes.Proofs.Name.Registry
import GraphTypes.Source.Token

/-!
# Every spelling of a name is a name

A GraphQL name consists of ASCII letters, digits and underscores, and does not begin with a digit.
The identifiers of generated code are to be of the same form, and they are under every convention
(`isName_apply`): the words of a name are made of its own letters and digits, words are changed in
the case of letters only, and nothing but underscores is put between them.
-/

namespace GraphTypes.Name

open GraphTypes.Source (Token)
open GraphTypes.Text

/-! ### Names -/

/-- A text of letters, digits and underscores. -/
def InName (text : List Char) : Prop := ∀ c ∈ text, Token.inName c

/-- A GraphQL name: a text of letters, digits and underscores that does not begin with a digit. -/
def IsName (name : String) : Prop :=
  name.toList.head?.any Token.startsName ∧ InName name.toList

instance (text : List Char) : Decidable (InName text) :=
  List.decidableBAll (fun c => Token.inName c) text

instance (name : String) : Decidable (IsName name) :=
  inferInstanceAs (Decidable (name.toList.head?.any Token.startsName ∧ InName name.toList))

theorem inName_append {front back : List Char} :
    InName (front ++ back) ↔ InName front ∧ InName back :=
  List.forall_mem_append

theorem inName_flatten {texts : List (List Char)} :
    InName texts.flatten ↔ ∀ text ∈ texts, InName text :=
  List.forall_mem_flatten

/-- A name stays one whatever letters, digits and underscores are put behind it. -/
theorem isName_append {front back : String} (h : IsName front) (hback : InName back.toList) :
    IsName (front ++ back) := by
  obtain ⟨starts, letters⟩ := h
  rw [IsName, String.toList_append]
  refine ⟨?_, inName_append.mpr ⟨letters, hback⟩⟩
  cases hfront : front.toList with
  | nil => rw [hfront] at starts; cases starts
  | cons c rest => rwa [hfront] at starts

theorem isName_available (r : Registry) {base : String} (h : IsName base) :
    IsName (r.available base) := by
  rw [Registry.available]
  split
  · apply isName_append h
    intro c hc
    rw [Token.inName, Char.isAlphanum, Registry.isDigit_of_mem_toString hc, Bool.or_true]
    rfl
  · exact h

/-! ### Characters of a name -/

theorem toNat_lt_of_inName {c : Char} (h : Token.inName c) : c.toNat < 128 := by
  change (((decide (65 ≤ c.val ∧ c.val ≤ 90) || (decide (97 ≤ c.val) && decide (c.val ≤ 122))) ||
    (decide (48 ≤ c.val) && decide (c.val ≤ 57))) || c == '_') = true at h
  simp only [Bool.or_eq_true, Bool.and_eq_true, decide_eq_true_eq, beq_iff_eq,
    UInt32.le_iff_toNat_le] at h
  rcases h with h | rfl
  · change ((65 ≤ c.toNat ∧ c.toNat ≤ 90) ∨ (97 ≤ c.toNat ∧ c.toNat ≤ 122)) ∨
      (48 ≤ c.toNat ∧ c.toNat ≤ 57) at h
    omega
  · decide

/-- What holds of the characters of names as far as they are seven-bit characters holds of all. -/
theorem forall_inName {p : Char → Prop}
    (h : ∀ n < 128, Token.inName (Char.ofNat n) → p (Char.ofNat n)) {c : Char}
    (hc : Token.inName c) : p c := by
  have hp := h c.toNat (toNat_lt_of_inName hc)
  rw [Char.ofNat_toNat] at hp
  exact hp hc

/-- What separates the words of a name are underscores. -/
theorem isAlphanumeric_iff {c : Char} (hc : Token.inName c) : isAlphanumeric c ↔ c ≠ '_' :=
  forall_inName (p := fun c => isAlphanumeric c ↔ c ≠ '_') (by decide +kernel) hc

/-- The characters of a name have one character each in upper and in lower case. -/
theorem upper_eq {c : Char} (hc : Token.inName c) : upper c = [c.toUpper] :=
  if_pos (by simpa [isAscii] using toNat_lt_of_inName hc)

theorem lower_eq {c : Char} (hc : Token.inName c) : lower c = [c.toLower] :=
  if_pos (by simpa [isAscii] using toNat_lt_of_inName hc)

theorem inName_charToUpper {c : Char} (hc : Token.inName c) : Token.inName c.toUpper :=
  forall_inName (p := fun c => Token.inName c.toUpper) (by decide +kernel) hc

theorem inName_charToLower {c : Char} (hc : Token.inName c) : Token.inName c.toLower :=
  forall_inName (p := fun c => Token.inName c.toLower) (by decide +kernel) hc

theorem inName_of_isAlpha {c : Char} (hc : c.isAlpha) : Token.inName c := by
  rw [Token.inName, Char.isAlphanum, hc]
  rfl

theorem isAlpha_toUpper {c : Char} (hc : c.isAlpha) : c.toUpper.isAlpha :=
  forall_inName (p := fun c => c.isAlpha → c.toUpper.isAlpha) (by decide +kernel)
    (inName_of_isAlpha hc) hc

theorem isAlpha_toLower {c : Char} (hc : c.isAlpha) : c.toLower.isAlpha :=
  forall_inName (p := fun c => c.isAlpha → c.toLower.isAlpha) (by decide +kernel)
    (inName_of_isAlpha hc) hc

/-! ### Case changes -/

section Case

variable {text : List Char} (h : InName text)

include h

theorem toUpper_eq_map : toUpper text = text.map Char.toUpper := by
  rw [toUpper, List.map_eq_flatMap]
  apply List.flatMap_congr
  intro c hc
  exact upper_eq (h c hc)

theorem flatMap_lower_eq_map : text.flatMap lower = text.map Char.toLower := by
  rw [List.map_eq_flatMap]
  apply List.flatMap_congr
  intro c hc
  exact lower_eq (h c hc)

/-- No sigma is among the characters of a name, so they do not depend on what stands beside. -/
theorem toLowerAfter_eq_map (before : List Char) :
    toLowerAfter before text = text.map Char.toLower := by
  induction text generalizing before with
  | nil => rfl
  | cons c rest ih =>
    obtain ⟨hc, hrest⟩ := List.forall_mem_cons.mp h
    have noSigma : c ≠ 'Σ' := by
      rintro rfl
      exact absurd hc (by decide)
    rw [toLowerAfter, if_neg noSigma, lower_eq hc, ih hrest]
    rfl

theorem toLower_eq_map : toLower text = text.map Char.toLower :=
  toLowerAfter_eq_map h []

theorem inName_toUpper : InName (toUpper text) := by
  rw [toUpper_eq_map h, InName, List.forall_mem_map]
  intro c hc
  exact inName_charToUpper (h c hc)

theorem inName_toLower : InName (toLower text) := by
  rw [toLower_eq_map h, InName, List.forall_mem_map]
  intro c hc
  exact inName_charToLower (h c hc)

end Case

theorem capitalize_cons {c : Char} {rest : List Char} (h : InName (c :: rest)) :
    capitalize (c :: rest) = c.toUpper :: rest.map Char.toLower := by
  obtain ⟨hc, hrest⟩ := List.forall_mem_cons.mp h
  rw [capitalize, upper_eq hc, flatMap_lower_eq_map hrest]
  rfl

theorem inName_capitalize {text : List Char} (h : InName text) : InName (capitalize text) := by
  cases text with
  | nil => exact h
  | cons c rest =>
    obtain ⟨hc, hrest⟩ := List.forall_mem_cons.mp h
    rw [capitalize_cons h]
    rw [← toLower_eq_map hrest]
    exact List.forall_mem_cons.mpr ⟨inName_charToUpper hc, inName_toLower hrest⟩

/-! ### Words -/

theorem flatten_extendFirst (c : Char) (ws : List (List Char)) :
    (extendFirst c ws).flatten = c :: ws.flatten := by
  cases ws <;> rfl

/-- The words of a name are its letters and digits, in order. -/
theorem flatten_words (body : List Char) : (words body).flatten = body.filter isAlphanumeric := by
  fun_induction words body with
  | case1 => rfl
  | case2 c hc => rw [List.filter_cons_of_pos hc]; rfl
  | case3 c hc d after inside ih => rw [flatten_extendFirst, ih, List.filter_cons_of_pos hc]
  | case4 c hc d after ends ih => rw [List.flatten_cons, ih, List.filter_cons_of_pos hc]; rfl
  | case5 c rest hc ih => rw [ih, List.filter_cons_of_neg hc]

theorem inName_of_mem_words {body : List Char} (h : InName body) :
    ∀ word ∈ words body, InName word := by
  rw [← inName_flatten, flatten_words]
  intro c hc
  exact h c (List.mem_filter.mp hc).1

theorem extendFirst_eq (c : Char) (ws : List (List Char)) :
    ∃ word others, extendFirst c ws = (c :: word) :: others := by
  cases ws with
  | nil => exact ⟨[], [], rfl⟩
  | cons word others => exact ⟨word, others, rfl⟩

/-- The first word begins with the first letter or digit. -/
theorem words_cons {c : Char} (hc : isAlphanumeric c) (rest : List Char) :
    ∃ word others, words (c :: rest) = (c :: word) :: others := by
  rw [words.eq_def]
  dsimp only
  rw [if_pos hc]
  cases rest with
  | nil => exact ⟨[], [], rfl⟩
  | cons d after =>
    dsimp only
    split
    · exact extendFirst_eq c _
    · exact ⟨[], _, rfl⟩

theorem underscored_singleton (word : List Char) : Convention.underscored [word] = word :=
  List.intercalate_singleton

theorem underscored_cons_cons (word next : List Char) (rest : List (List Char)) :
    Convention.underscored (word :: next :: rest) =
      word ++ '_' :: Convention.underscored (next :: rest) := by
  rw [Convention.underscored, List.intercalate_cons_cons, List.append_assoc,
    List.singleton_append]
  rfl

theorem inName_underscored {ws : List (List Char)} (h : ∀ word ∈ ws, InName word) :
    InName (Convention.underscored ws) := by
  induction ws with
  | nil => exact List.forall_mem_nil _
  | cons word others ih =>
    obtain ⟨hword, hothers⟩ := List.forall_mem_cons.mp h
    cases others with
    | nil => rwa [underscored_singleton]
    | cons next rest =>
      rw [underscored_cons_cons, inName_append]
      exact ⟨hword, List.forall_mem_cons.mpr ⟨rfl, ih hothers⟩⟩

/-- Underscores stand between words only. -/
theorem head?_underscored {word : List Char} {c : Char} (h : word.head? = some c)
    (others : List (List Char)) : (Convention.underscored (word :: others)).head? = some c := by
  obtain ⟨rest, rfl⟩ := List.head?_eq_some_iff.mp h
  cases others with
  | nil => rfl
  | cons next after => rfl

/-! ### Conventions -/

namespace Convention

theorem inName_convert {body : List Char} (h : InName body) (convention : Convention) :
    InName (convention.convert body) := by
  have pieces := inName_of_mem_words h
  have capitalized : ∀ ws : List (List Char), (∀ word ∈ ws, InName word) →
      InName (ws.flatMap capitalize) := by
    intro ws hws
    rw [List.flatMap, inName_flatten, List.forall_mem_map]
    intro word hword
    exact inName_capitalize (hws word hword)
  cases convention with
  | keep => exact h
  | upperCase => exact inName_toUpper h
  | lowerCase => exact inName_toLower h
  | pascalCase => exact capitalized _ pieces
  | camelCase =>
    rw [convert]
    cases hwords : words body with
    | nil => exact List.forall_mem_nil _
    | cons word others =>
      rw [hwords, List.forall_mem_cons] at pieces
      exact inName_append.mpr ⟨inName_toLower pieces.1, capitalized _ pieces.2⟩
  | constantCase =>
    apply inName_underscored
    rw [List.forall_mem_map]
    intro word hword
    exact inName_toUpper (pieces word hword)
  | snakeCase =>
    apply inName_underscored
    rw [List.forall_mem_map]
    intro word hword
    exact inName_toLower (pieces word hword)

/-- A name begins in every spelling as it does, in one case or the other. -/
theorem head?_convert {c : Char} {rest : List Char} (hc : isAlphanumeric c) (h : InName (c :: rest))
    (convention : Convention) :
    ∃ d ∈ [c, c.toUpper, c.toLower], (convention.convert (c :: rest)).head? = some d := by
  obtain ⟨word, others, hwords⟩ := words_cons hc rest
  have hword : InName (c :: word) :=
    inName_of_mem_words h _ (hwords ▸ List.mem_cons_self)
  cases convention with
  | keep => exact ⟨c, by simp, rfl⟩
  | upperCase => exact ⟨c.toUpper, by simp, by rw [convert, toUpper_eq_map h]; rfl⟩
  | lowerCase => exact ⟨c.toLower, by simp, by rw [convert, toLower_eq_map h]; rfl⟩
  | pascalCase =>
    refine ⟨c.toUpper, by simp, ?_⟩
    rw [convert, hwords, List.flatMap_cons, capitalize_cons hword]
    rfl
  | camelCase =>
    refine ⟨c.toLower, by simp, ?_⟩
    rw [convert, hwords]
    show (toLower (c :: word) ++ _).head? = _
    rw [toLower_eq_map hword]
    rfl
  | constantCase =>
    refine ⟨c.toUpper, by simp, ?_⟩
    rw [convert, hwords, List.map_cons, toUpper_eq_map hword]
    exact head?_underscored rfl _
  | snakeCase =>
    refine ⟨c.toLower, by simp, ?_⟩
    rw [convert, hwords, List.map_cons, toLower_eq_map hword]
    exact head?_underscored rfl _

/-- Every convention spells a name as a name. -/
theorem isName_apply {name : String} (h : IsName name) (convention : Convention) :
    IsName (convention.apply name) := by
  obtain ⟨starts, letters⟩ := h
  rw [IsName, apply, String.toList_ofList, applyChars]
  have parts := List.takeWhile_append_dropWhile (p := (· == '_')) (l := name.toList)
  rw [← parts, inName_append] at letters
  refine ⟨?_, inName_append.mpr ⟨letters.1, inName_convert letters.2 convention⟩⟩
  cases hname : name.toList with
  | nil => rw [hname] at starts; cases starts
  | cons c rest =>
    rw [hname] at starts letters
    by_cases underscore : c = '_'
    · subst underscore
      rfl
    · have hc : c.isAlpha := by simpa [Token.startsName, underscore] using starts
      have body : (c :: rest).dropWhile (· == '_') = c :: rest := by
        rw [List.dropWhile_cons, if_neg (by simpa using underscore)]
      have front : (c :: rest).takeWhile (· == '_') = [] := by
        rw [List.takeWhile_cons, if_neg (by simpa using underscore)]
      rw [body] at letters
      obtain ⟨d, recased, hd⟩ :=
        head?_convert ((isAlphanumeric_iff (inName_of_isAlpha hc)).mpr underscore) letters.2
          convention
      have alpha : d.isAlpha := by
        simp only [List.mem_cons, List.not_mem_nil, or_false] at recased
        rcases recased with rfl | rfl | rfl
        · exact hc
        · exact isAlpha_toUpper hc
        · exact isAlpha_toLower hc
      rw [front, body, List.nil_append, hd, Option.any_some, Token.startsName, alpha]
      rfl

end Convention

end GraphTypes.Name
