import GraphTypes.Proofs.Name.Spelling

/-!
# Snake case is a canonical spelling

In snake case the words of a name are small and have underscores between them. A small word has no
capital that could begin another word inside of it, so the words of the spelling are those of the
name in lower case (`words_convert_snakeCase`). The conventions that go by words choose the case of
every letter anew, so they spell the snake case of a name as they spell the name itself.
-/

namespace GraphTypes.Name

open GraphTypes.Source (Token)
open GraphTypes.Text

/-! ### Small words -/

/-- A word without capitals. -/
def IsSmall (word : List Char) : Prop := ∀ c ∈ word, isAlphanumeric c ∧ isUppercase c = false

/-- A small word is one word, whatever else comes behind it. -/
theorem words_append {word rest : List Char} (some : word ≠ []) (small : IsSmall word)
    (stop : ∀ c ∈ rest.head?, ¬ isAlphanumeric c) : words (word ++ rest) = word :: words rest := by
  induction word with
  | nil => exact absurd rfl some
  | cons c more ih =>
    rw [IsSmall, List.forall_mem_cons] at small
    obtain ⟨⟨hc, -⟩, small⟩ := small
    cases more with
    | nil =>
      cases rest with
      | nil => simp [words, hc]
      | cons d after =>
        have hd : ¬ isAlphanumeric d := stop d rfl
        simp [words, hc, hd]
    | cons d others =>
      obtain ⟨hd, lower⟩ := small d List.mem_cons_self
      have inside : ∀ next, startsWord c d next = false := by simp [startsWord, lower]
      have step : words (c :: d :: (others ++ rest)) =
          extendFirst c (words (d :: (others ++ rest))) := by
        simp [words, hc, hd, inside]
      show words (c :: d :: (others ++ rest)) = _
      rw [step, ← List.cons_append, ih (List.cons_ne_nil d others) small, extendFirst]

/-- Small words that have underscores put between them are the words of what comes out. -/
theorem words_underscored {ws : List (List Char)} (h : ∀ word ∈ ws, word ≠ [] ∧ IsSmall word) :
    words (Convention.underscored ws) = ws := by
  induction ws with
  | nil => rfl
  | cons word others ih =>
    obtain ⟨⟨some, small⟩, h⟩ := List.forall_mem_cons.mp h
    cases others with
    | nil =>
      have alone : words (word ++ []) = word :: words [] := words_append some small (by simp)
      rw [List.append_nil, words] at alone
      rwa [underscored_singleton]
    | cons next rest =>
      have underscore : ¬ isAlphanumeric '_' := by decide +kernel
      have skip : words ('_' :: Convention.underscored (next :: rest)) =
          words (Convention.underscored (next :: rest)) := by
        rw [words.eq_def]
        exact if_neg underscore
      rw [underscored_cons_cons, words_append some small (by simpa using underscore), skip, ih h]

theorem isSmall_toLower {word : List Char} (h : InName word) (plain : '_' ∉ word) :
    IsSmall (toLower word) := by
  rw [toLower_eq_map h, IsSmall, List.forall_mem_map]
  intro c hc
  have small := forall_inName
    (p := fun c => c ≠ '_' → isAlphanumeric c.toLower ∧ isUppercase c.toLower = false)
    (by decide +kernel) (h c hc)
  exact small (ne_of_mem_of_not_mem hc plain)

/-! ### Case chosen anew -/

theorem charToUpper_toLower {c : Char} (hc : Token.inName c) : c.toLower.toUpper = c.toUpper :=
  forall_inName (p := fun c => c.toLower.toUpper = c.toUpper) (by decide +kernel) hc

section Case

variable {text : List Char} (h : InName text)

include h

theorem toUpper_toLower : toUpper (toLower text) = toUpper text := by
  rw [toUpper_eq_map (inName_toLower h), toLower_eq_map h, List.map_map, toUpper_eq_map h]
  exact List.map_congr_left fun c hc => charToUpper_toLower (h c hc)

theorem toLower_toLower : toLower (toLower text) = toLower text := by
  rw [toLower_eq_map (inName_toLower h), recases_toLower.alike h, toLower_eq_map h]

theorem capitalize_toLower : capitalize (toLower text) = capitalize text := by
  cases text with
  | nil => rfl
  | cons c rest =>
    obtain ⟨hc, hrest⟩ := List.forall_mem_cons.mp h
    have lowered := inName_toLower h
    rw [toLower_eq_map h, List.map_cons] at lowered
    rw [toLower_eq_map h, List.map_cons, capitalize_cons lowered, charToUpper_toLower hc,
      ← toLower_eq_map hrest, recases_toLower.alike hrest, capitalize_cons h]

end Case

theorem map_underscored {f : Char → Char} (underscore : f '_' = '_') (ws : List (List Char)) :
    (Convention.underscored ws).map f = Convention.underscored (ws.map (List.map f)) := by
  induction ws with
  | nil => rfl
  | cons word others ih =>
    cases others with
    | nil => rw [List.map_singleton, underscored_singleton, underscored_singleton]
    | cons next rest =>
      rw [underscored_cons_cons, List.map_append, List.map_cons, ih, underscore,
        List.map_cons (l := next :: rest), List.map_cons, underscored_cons_cons]

/-! ### Spellings of a spelling -/

namespace Convention

/-- The conventions that go by the words of a name. -/
def wordBased : List Convention := [pascalCase, camelCase, constantCase, snakeCase]

section Body

variable {body : List Char} (h : InName body)

include h

theorem words_convert_snakeCase : words (snakeCase.convert body) = (words body).map toLower := by
  apply words_underscored
  rw [List.forall_mem_map]
  intro word hword
  have named := inName_of_mem_words h word hword
  rw [recases_toLower.ne_nil_iff named]
  exact ⟨ne_nil_of_mem_words word hword,
    isSmall_toLower named (underscore_not_mem_words h word hword)⟩

theorem convert_convert_snakeCase {convention : Convention} (hmem : convention ∈ wordBased) :
    convention.convert (snakeCase.convert body) = convention.convert body := by
  have again := words_convert_snakeCase h
  have pieces := inName_of_mem_words h
  simp only [wordBased, List.mem_cons, List.not_mem_nil, or_false] at hmem
  rcases hmem with rfl | rfl | rfl | rfl
  · rw [convert, again, List.flatMap_map, convert]
    exact List.flatMap_congr fun word hword => capitalize_toLower (pieces word hword)
  · rw [convert, again, convert]
    cases hwords : words body with
    | nil => rfl
    | cons first others =>
      rw [hwords, List.forall_mem_cons] at pieces
      have capitalized : (others.map toLower).flatMap capitalize = others.flatMap capitalize := by
        rw [List.flatMap_map]
        exact List.flatMap_congr fun word hword => capitalize_toLower (pieces.2 word hword)
      show toLower (toLower first) ++ _ = toLower first ++ _
      rw [toLower_toLower pieces.1, capitalized]
  · rw [convert, again, List.map_map, convert]
    congr 1
    exact List.map_congr_left fun word hword => toUpper_toLower (pieces word hword)
  · rw [convert, again, List.map_map]
    congr 1
    exact List.map_congr_left fun word hword => toLower_toLower (pieces word hword)

theorem convert_constantCase :
    constantCase.convert body = (snakeCase.convert body).map Char.toUpper := by
  rw [convert, convert, map_underscored (by rfl), List.map_map]
  congr 1
  apply List.map_congr_left
  intro word hword
  have named := inName_of_mem_words h word hword
  rw [Function.comp_apply, ← toUpper_eq_map (inName_toLower named), toUpper_toLower named]

end Body

/-- The snake case of a name stands for the name in every convention that goes by words, itself
included, and in capitals it is the constant case of the name. -/
theorem snakeCase_canonical {name : String} (h : IsName name) :
    (∀ convention ∈ wordBased,
      convention.apply (snakeCase.apply name) = convention.apply name) ∧
    constantCase.apply name = (snakeCase.apply name).toUpper := by
  have named := inName_dropWhile h.2
  obtain ⟨front, back⟩ := applyChars_parts h.2 snakeCase
  constructor
  · intro convention hmem
    rw [apply, apply, String.toList_ofList, apply]
    congr 1
    rw [applyChars, front, back, convert_convert_snakeCase named hmem, applyChars]
  · have underscores : (name.toList.takeWhile (· == '_')).map Char.toUpper =
        name.toList.takeWhile (· == '_') := by
      rw [List.map_congr_left (g := id), List.map_id]
      intro c hc
      have underscore := List.all_eq_true.mp List.all_takeWhile c hc
      rw [beq_iff_eq.mp underscore]
      rfl
    rw [String.toUpper, ← String.toList_inj, String.toList_map, apply, apply, String.toList_ofList,
      String.toList_ofList, applyChars, applyChars, List.map_append, underscores,
      convert_constantCase named]

/-- A name that tells its words apart in every way there is. -/
theorem snakeCase_canonical_mixed :
    IsName "_XMLHttp2Request__to_URL" ∧
      (∀ convention ∈ wordBased,
        convention.apply (snakeCase.apply "_XMLHttp2Request__to_URL") =
          convention.apply "_XMLHttp2Request__to_URL") ∧
      constantCase.apply "_XMLHttp2Request__to_URL" =
        (snakeCase.apply "_XMLHttp2Request__to_URL").toUpper := by
  have named : IsName "_XMLHttp2Request__to_URL" := by decide +kernel
  exact ⟨named, snakeCase_canonical named⟩

/-- Capitals cannot take the place of small words: behind a digit they begin another word. -/
example : snakeCase.apply "a1b" = "a1b" ∧
    snakeCase.apply (constantCase.apply "a1b") = "a1_b" := by decide +kernel

end Convention

end GraphTypes.Name
