import GraphTypes.Proofs.Name.Convention
import GraphTypes.Proofs.Text.Line

/-!
# What a spelling keeps of a name

A convention changes the case of letters and where underscores stand, and nothing else: each
spelling of a name has the letters and digits of the name, in the same order, and begins with as
many underscores (`keeps_apply`). Where a convention tells words apart by their case alone, no other
underscore is left. Where it puts underscores between words, cutting at these yields the words
again, and as no word is empty no two underscores meet and none ends the name.
-/

namespace GraphTypes.Name

open GraphTypes.Source (Token)
open GraphTypes.Text

/-! ### Changes of case -/

theorem toLower_charToUpper {c : Char} (hc : Token.inName c) : c.toUpper.toLower = c.toLower :=
  forall_inName (p := fun c => c.toUpper.toLower = c.toLower) (by decide +kernel) hc

theorem toLower_charToLower {c : Char} (hc : Token.inName c) : c.toLower.toLower = c.toLower :=
  forall_inName (p := fun c => c.toLower.toLower = c.toLower) (by decide +kernel) hc

theorem charToUpper_eq_underscore {c : Char} (hc : Token.inName c) : c.toUpper = '_' ↔ c = '_' :=
  forall_inName (p := fun c => c.toUpper = '_' ↔ c = '_') (by decide +kernel) hc

theorem charToLower_eq_underscore {c : Char} (hc : Token.inName c) : c.toLower = '_' ↔ c = '_' :=
  forall_inName (p := fun c => c.toLower = '_' ↔ c = '_') (by decide +kernel) hc

/-- A function that changes the case of letters, and nothing else. -/
structure Recases (f : List Char → List Char) : Prop where
  inName : ∀ {text}, InName text → InName (f text)
  alike : ∀ {text}, InName text → (f text).map Char.toLower = text.map Char.toLower

theorem recases_toUpper : Recases toUpper where
  inName := inName_toUpper
  alike h := by
    rw [toUpper_eq_map h, List.map_map]
    exact List.map_congr_left fun c hc => toLower_charToUpper (h c hc)

theorem recases_toLower : Recases toLower where
  inName := inName_toLower
  alike h := by
    rw [toLower_eq_map h, List.map_map]
    exact List.map_congr_left fun c hc => toLower_charToLower (h c hc)

theorem recases_capitalize : Recases capitalize where
  inName := inName_capitalize
  alike {text} h := by
    cases text with
    | nil => rfl
    | cons c rest =>
      obtain ⟨hc, hrest⟩ := List.forall_mem_cons.mp h
      rw [capitalize_cons h, ← toLower_eq_map hrest, List.map_cons, toLower_charToUpper hc,
        recases_toLower.alike hrest, List.map_cons]

theorem underscore_mem_map_toLower {text : List Char} (h : InName text) :
    '_' ∈ text.map Char.toLower ↔ '_' ∈ text := by
  rw [List.mem_map]
  constructor
  · rintro ⟨c, hc, underscore⟩
    exact (charToLower_eq_underscore (h c hc)).mp underscore ▸ hc
  · intro hmem
    exact ⟨'_', hmem, rfl⟩

namespace Recases

variable {f : List Char → List Char} (recases : Recases f) {text : List Char} (h : InName text)

include recases h

theorem underscore_mem_iff : '_' ∈ f text ↔ '_' ∈ text := by
  rw [← underscore_mem_map_toLower (recases.inName h), recases.alike h,
    underscore_mem_map_toLower h]

theorem ne_nil_iff : f text ≠ [] ↔ text ≠ [] := by
  rw [← List.length_pos_iff, ← List.length_pos_iff, ← List.length_map (f := Char.toLower),
    recases.alike h, List.length_map]

end Recases

/-! ### Letters and digits -/

/-- The letters and digits of a text, in order and in lower case. -/
def letters (text : List Char) : List Char := (text.map Char.toLower).filter Char.isAlphanum

theorem letters_congr {text text' : List Char}
    (h : text.map Char.toLower = text'.map Char.toLower) : letters text = letters text' := by
  rw [letters, h, letters]

theorem letters_append (front back : List Char) :
    letters (front ++ back) = letters front ++ letters back := by
  rw [letters, List.map_append, List.filter_append, letters, letters]

theorem letters_flatten (ws : List (List Char)) : letters ws.flatten = ws.flatMap letters := by
  induction ws with
  | nil => rfl
  | cons word others ih => rw [List.flatten_cons, letters_append, ih, List.flatMap_cons]

theorem letters_underscored (ws : List (List Char)) :
    letters (Convention.underscored ws) = ws.flatMap letters := by
  induction ws with
  | nil => rfl
  | cons word others ih =>
    cases others with
    | nil => rw [underscored_singleton, List.flatMap_singleton]
    | cons next rest =>
      have underscore : letters ['_'] = [] := by decide
      rw [underscored_cons_cons, ← List.singleton_append, letters_append, letters_append,
        underscore, List.nil_append, ih, List.flatMap_cons (x := word)]

/-- Nothing but underscores separates words. -/
theorem flatMap_letters_words {body : List Char} (h : InName body) :
    (words body).flatMap letters = letters body := by
  rw [← letters_flatten, flatten_words, letters, List.filter_map, List.filter_filter, letters,
    List.filter_map]
  congr 1
  apply List.filter_congr
  intro c hc
  exact forall_inName (p := fun c =>
    ((Char.isAlphanum ∘ Char.toLower) c && isAlphanumeric c) = (Char.isAlphanum ∘ Char.toLower) c)
    (by decide +kernel) (h c hc)

/-- Words have the same letters when their case is changed. -/
theorem Recases.flatMap_letters {f : List Char → List Char} (recases : Recases f)
    {ws : List (List Char)} (h : ∀ word ∈ ws, InName word) :
    (ws.map f).flatMap letters = ws.flatMap letters := by
  rw [List.flatMap_map]
  exact List.flatMap_congr fun word hword => letters_congr (recases.alike (h word hword))

/-! ### Words between underscores -/

theorem extendFirst_ne_nil {c : Char} {ws : List (List Char)} (h : ∀ word ∈ ws, word ≠ []) :
    ∀ word ∈ extendFirst c ws, word ≠ [] := by
  cases ws with
  | nil => simp [extendFirst]
  | cons first others =>
    rw [List.forall_mem_cons] at h
    exact List.forall_mem_cons.mpr ⟨List.cons_ne_nil c first, h.2⟩

theorem ne_nil_of_mem_words {body : List Char} : ∀ word ∈ words body, word ≠ [] := by
  fun_induction words body with
  | case1 => exact List.forall_mem_nil _
  | case2 c hc => simp
  | case3 c hc d after inside ih => exact extendFirst_ne_nil ih
  | case4 c hc d after ends ih => exact List.forall_mem_cons.mpr ⟨List.cons_ne_nil c [], ih⟩
  | case5 c rest hc ih => exact ih

theorem underscore_not_mem_words {body : List Char} (h : InName body) :
    ∀ word ∈ words body, '_' ∉ word := by
  intro word hword underscore
  have kept : '_' ∈ (words body).flatten := List.mem_flatten_of_mem hword underscore
  rw [flatten_words] at kept
  obtain ⟨hmem, alphanumeric⟩ := List.mem_filter.mp kept
  exact (isAlphanumeric_iff (h _ hmem)).mp alphanumeric rfl

/-- Cutting at underscores yields the words that were put between them. -/
theorem splitOn_underscored {ws : List (List Char)} (some : ws ≠ [])
    (plain : ∀ word ∈ ws, '_' ∉ word) : (Convention.underscored ws).splitOn '_' = ws :=
  List.splitOn_intercalate '_' plain some

/-- Two underscores in a row, or one at the end, have an empty word between or behind them. -/
theorem nil_mem_splitOn {text : List Char}
    (h : ['_', '_'] <:+: text ∨ ['_'] <:+ text) : [] ∈ text.splitOn '_' := by
  rcases h with ⟨front, back, rfl⟩ | ⟨front, rfl⟩
  · have cut : front ++ ['_', '_'] ++ back = front ++ '_' :: ([] ++ '_' :: back) := by simp
    rw [cut, List.splitOn, List.splitOnP_append_cons _ _ (by rfl),
      List.splitOnP_append_cons _ _ (by rfl)]
    simp
  · rw [List.splitOn, List.splitOnP_append_cons _ _ (by rfl)]
    simp

theorem separated_underscored {ws : List (List Char)}
    (h : ∀ word ∈ ws, '_' ∉ word ∧ word ≠ []) :
    ¬ (['_', '_'] <:+: Convention.underscored ws ∨ ['_'] <:+ Convention.underscored ws) := by
  by_cases none : ws = []
  · subst none
    decide
  · intro joined
    have empty := nil_mem_splitOn joined
    rw [splitOn_underscored none fun word hword => (h word hword).1] at empty
    exact (h [] empty).2 rfl

/-! ### Conventions -/

namespace Convention

theorem convert_nil (convention : Convention) : convention.convert [] = [] := by
  cases convention <;> rfl

section Body

variable {body : List Char} (h : InName body)

include h

/-- The words of a name, with the case of their letters changed, still have the letters of the name
and no underscores. -/
theorem recased_words {f : List Char → List Char} (recases : Recases f) :
    ((words body).map f).flatMap letters = letters body ∧
      ∀ word ∈ (words body).map f, '_' ∉ word ∧ word ≠ [] := by
  have pieces := inName_of_mem_words h
  refine ⟨(recases.flatMap_letters pieces).trans (flatMap_letters_words h), ?_⟩
  rw [List.forall_mem_map]
  intro word hword
  rw [recases.underscore_mem_iff (pieces word hword), recases.ne_nil_iff (pieces word hword)]
  exact ⟨underscore_not_mem_words h word hword, ne_nil_of_mem_words word hword⟩

theorem letters_convert (convention : Convention) :
    letters (convention.convert body) = letters body := by
  cases convention with
  | keep => rfl
  | upperCase => exact letters_congr (recases_toUpper.alike h)
  | lowerCase => exact letters_congr (recases_toLower.alike h)
  | pascalCase =>
    rw [convert, List.flatMap_def, letters_flatten]
    exact (recased_words h recases_capitalize).1
  | camelCase =>
    have pieces := inName_of_mem_words h
    rw [convert, ← flatMap_letters_words h]
    cases hwords : words body with
    | nil => rfl
    | cons first others =>
      rw [hwords, List.forall_mem_cons] at pieces
      rw [letters_append, letters_congr (recases_toLower.alike pieces.1), List.flatMap_def,
        letters_flatten, recases_capitalize.flatMap_letters pieces.2, List.flatMap_cons]
  | constantCase =>
    rw [convert, letters_underscored]
    exact (recased_words h recases_toUpper).1
  | snakeCase =>
    rw [convert, letters_underscored]
    exact (recased_words h recases_toLower).1

/-- Words that are told apart by their case stand directly behind each other. -/
theorem underscore_not_mem_convert {convention : Convention}
    (joined : convention = .pascalCase ∨ convention = .camelCase) :
    '_' ∉ convention.convert body := by
  have capitalized := (recased_words h recases_capitalize).2
  have lowered := (recased_words h recases_toLower).2
  rcases joined with rfl | rfl
  · rw [convert, List.flatMap_def]
    intro hmem
    obtain ⟨word, hword, underscore⟩ := List.mem_flatten.mp hmem
    exact (capitalized word hword).1 underscore
  · rw [convert]
    cases hwords : words body with
    | nil => exact List.not_mem_nil
    | cons first others =>
      rw [hwords, List.map_cons, List.forall_mem_cons] at capitalized lowered
      intro hmem
      rcases List.mem_append.mp hmem with hmem | hmem
      · exact lowered.1.1 hmem
      · rw [List.flatMap_def] at hmem
        obtain ⟨word, hword, underscore⟩ := List.mem_flatten.mp hmem
        exact (capitalized.2 word hword).1 underscore

/-- Words that have underscores put between them have one between each two, and no other. -/
theorem separated_convert {convention : Convention}
    (separated : convention = .constantCase ∨ convention = .snakeCase) :
    ¬ (['_', '_'] <:+: convention.convert body ∨ ['_'] <:+ convention.convert body) := by
  rcases separated with rfl | rfl
  · exact separated_underscored (recased_words h recases_toUpper).2
  · exact separated_underscored (recased_words h recases_toLower).2

theorem underscore_not_head_convert (front : body.head? ≠ some '_') (convention : Convention) :
    (convention.convert body).head? ≠ some '_' := by
  cases body with
  | nil =>
    rw [convert_nil]
    simp
  | cons c rest =>
    have hc := h c List.mem_cons_self
    have plain : c ≠ '_' := by simpa using front
    obtain ⟨d, recased, hd⟩ := head?_convert ((isAlphanumeric_iff hc).mpr plain) h convention
    rw [hd]
    rintro ⟨⟩
    -- No other character has an underscore as its upper or lower case.
    simp only [List.mem_cons, List.not_mem_nil, or_false] at recased
    rcases recased with same | upper | lower
    · exact plain same.symm
    · exact plain ((charToUpper_eq_underscore hc).mp upper.symm)
    · exact plain ((charToLower_eq_underscore hc).mp lower.symm)

end Body

/-! ### The two parts of a name -/

theorem inName_dropWhile {text : List Char} (h : InName text) :
    InName (text.dropWhile (· == '_')) :=
  fun c hc => h c ((List.dropWhile_suffix _).subset hc)

theorem head?_dropWhile_underscore (text : List Char) :
    (text.dropWhile (· == '_')).head? ≠ some '_' :=
  fun underscore => not_head?_dropWhile (· == '_') text '_' underscore rfl

/-- Where a name is spelled, the underscores in front stay what they are, and the rest is converted.
-/
theorem applyChars_parts {text : List Char} (h : InName text) (convention : Convention) :
    (convention.applyChars text).takeWhile (· == '_') = text.takeWhile (· == '_') ∧
      (convention.applyChars text).dropWhile (· == '_') =
        convention.convert (text.dropWhile (· == '_')) := by
  have underscores : ∀ c ∈ text.takeWhile (· == '_'), (c == '_') = true :=
    fun c hc => List.all_eq_true.mp List.all_takeWhile c hc
  have front := underscore_not_head_convert (inName_dropWhile h)
    (head?_dropWhile_underscore text) convention
  rw [applyChars, List.takeWhile_append_of_pos underscores,
    List.dropWhile_append_of_pos underscores]
  cases hbody : convention.convert (text.dropWhile (· == '_')) with
  | nil => simp
  | cons c rest =>
    rw [hbody] at front
    have plain : (c == '_') = false := by simpa using front
    rw [List.takeWhile_cons_of_neg (by simp [plain]), List.dropWhile_cons_of_neg (by simp [plain]),
      List.append_nil]
    exact ⟨rfl, rfl⟩

end Convention

/-! ### The result -/

/-- How many underscores a name begins with. -/
def leadingUnderscores (name : String) : Nat := (name.toList.takeWhile (· == '_')).length

/-- What comes behind the leading underscores of a name. -/
def withoutUnderscores (name : String) : List Char := name.toList.dropWhile (· == '_')

/-- A convention spells a name in a way that keeps it. -/
structure Convention.Keeps (convention : Convention) (name spelling : String) : Prop where
  isName : IsName spelling
  leading : leadingUnderscores spelling = leadingUnderscores name
  letters : letters spelling.toList = letters name.toList
  joined : convention = .pascalCase ∨ convention = .camelCase →
    '_' ∉ withoutUnderscores spelling
  separated : convention = .constantCase ∨ convention = .snakeCase →
    ¬ ['_', '_'] <:+: withoutUnderscores spelling ∧ ¬ ['_'] <:+ withoutUnderscores spelling

/-- Every convention keeps every name. -/
theorem Convention.keeps_apply {name : String} (h : IsName name) (convention : Convention) :
    convention.Keeps name (convention.apply name) := by
  have chars : (convention.apply name).toList = convention.applyChars name.toList :=
    String.toList_ofList
  obtain ⟨front, back⟩ := applyChars_parts h.2 convention
  have named := inName_dropWhile h.2
  have rest : withoutUnderscores (convention.apply name) =
      convention.convert (name.toList.dropWhile (· == '_')) := by
    rw [withoutUnderscores, chars, back]
  constructor
  case isName => exact isName_apply h convention
  case leading => rw [leadingUnderscores, chars, front, leadingUnderscores]
  case letters =>
    rw [chars, applyChars, letters_append, letters_convert named, ← letters_append,
      List.takeWhile_append_dropWhile]
  case joined =>
    intro joined
    rw [rest]
    exact underscore_not_mem_convert named joined
  case separated =>
    intro separated
    rw [rest]
    exact not_or.mp (separated_convert named separated)

/-- An acronym, a digit, doubled underscores, and underscores at both ends. -/
theorem Convention.keeps_apply_acronym :
    IsName "__parseXMLDoc2Text__to_" ∧
      snakeCase.Keeps "__parseXMLDoc2Text__to_" (snakeCase.apply "__parseXMLDoc2Text__to_") := by
  have named : IsName "__parseXMLDoc2Text__to_" := by decide +kernel
  exact ⟨named, keeps_apply named snakeCase⟩

end GraphTypes.Name
