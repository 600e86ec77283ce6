import Mathlib.Data.List.Induction
import GraphTypes.Proofs.Name.Spelling

/-!
# Where words begin and end

The words of a name can be found in one pass over its places. The pass keeps the words that are
complete and the one that is pending, looks ahead one place, and looks back one place. It looks back
only while a word is pending, and then there is a place to look back to, namely that of the last
character of this word (`Pass.Holds`).

What the pass keeps at a place tells how the words lie around it. If the pending word does not go on
behind the place, no word has characters from both sides; if it does, one word has.
-/

namespace GraphTypes.Name

open GraphTypes.Text

/-! ### Going on with a word -/

/-- Whether a word that ends in `p` goes on in the text behind it. -/
def goesOn (p : Char) : List Char → Bool
  | [] => false
  | c :: after => isAlphanumeric c && !startsWord p c after.head?

/-- Puts a text in front of the first word. -/
def joinFirst (text : List Char) : List (List Char) → List (List Char)
  | [] => [text]
  | word :: others => (text ++ word) :: others

/-- The words of a text that comes behind a pending word, which ends in `p`. -/
def wordsBehind (pending : List Char) (p : Char) (text : List Char) : List (List Char) :=
  if goesOn p text then joinFirst pending (words text) else pending :: words text

theorem words_cons_of_not {c : Char} (hc : ¬ isAlphanumeric c) (rest : List Char) :
    words (c :: rest) = words rest := by
  rw [words.eq_def]
  exact if_neg hc

/-- A letter or digit is a word that is pending in front of the rest. -/
theorem words_cons_of_alphanumeric {c : Char} (hc : isAlphanumeric c) (rest : List Char) :
    words (c :: rest) = wordsBehind [c] c rest := by
  have joined : extendFirst c = joinFirst [c] := by
    funext ws
    cases ws <;> rfl
  cases rest with
  | nil => simp [words, hc, wordsBehind, goesOn]
  | cons d after =>
    rw [words.eq_def, wordsBehind, ← joined]
    exact if_pos hc

/-- The pending word takes in the character that it goes on with. -/
theorem joinFirst_wordsBehind (text pending : List Char) (p : Char) (rest : List Char) :
    joinFirst text (wordsBehind pending p rest) = wordsBehind (text ++ pending) p rest := by
  rw [wordsBehind, wordsBehind]
  split
  · cases words rest with
    | nil => rfl
    | cons word others => simp only [joinFirst, List.append_assoc]
  · rfl

/-! ### One pass -/

/-- What a pass over a name keeps. -/
structure Pass where
  complete : List (List Char)
  pending : List Char

namespace Pass

/-- The words so far. A pending word is complete if nothing goes on with it. -/
def close (s : Pass) : List (List Char) :=
  if s.pending.isEmpty then s.complete else s.complete ++ [s.pending]

/-- Takes in a character, given what stands in front of it and behind it. What stands in front is
asked for only at a capital, and only if a word is pending. -/
def take (s : Pass) (front : Option Char) (c : Char) (next : Option Char) : Option Pass :=
  if !isAlphanumeric c then some ⟨s.close, []⟩
  else if isUppercase c && !s.pending.isEmpty then
    front.map fun p =>
      if startsWord p c next then ⟨s.close, [c]⟩ else ⟨s.complete, s.pending ++ [c]⟩
  else some ⟨s.complete, s.pending ++ [c]⟩

/-- The character in front of a place. There is none in front of the first. -/
def lookBack (name : List Char) : Nat → Option Char
  | 0 => none
  | i + 1 => name[i]?

/-- Takes in the character at a place. This fails if it is asked for a place in front of the name.
-/
def step (name : List Char) (s : Pass) (i : Nat) : Option Pass :=
  name[i]?.bind fun c => s.take (lookBack name i) c name[i + 1]?

/-- The words that a pass over all places of a name finds. -/
def words? (name : List Char) : Option (List (List Char)) := do
  let s ← (List.range name.length).foldlM (step name) ⟨[], []⟩
  return s.close

/-- A pass over `front` keeps what the words of the name are made of, where `back` is still to come.
A word is pending exactly if `front` ends in a letter or digit, and ends in it then. -/
inductive Holds : Pass → List Char → List Char → Prop
  | between {complete : List (List Char)} {front back : List Char}
    (ends : ∀ p ∈ front.getLast?, ¬ isAlphanumeric p)
    (kept : complete.flatten = front.filter isAlphanumeric)
    (made : words (front ++ back) = complete ++ words back) : Holds ⟨complete, []⟩ front back
  | inside {complete : List (List Char)} {word front back : List Char} {p : Char}
    (ends : isAlphanumeric p)
    (kept : complete.flatten ++ word = front.filter isAlphanumeric)
    (made : words ((front ++ [p]) ++ back) = complete ++ wordsBehind (word ++ [p]) p back) :
    Holds ⟨complete, word ++ [p]⟩ (front ++ [p]) back

theorem lookBack_append (front rest : List Char) :
    lookBack (front ++ rest) front.length = front.getLast? := by
  induction front using List.reverseRecOn with
  | nil => rfl
  | append_singleton front p => simp [lookBack]

/-- At the place between two parts of a name, the pass sees what is next to it in each part. -/
theorem step_append (s : Pass) (front : List Char) (c : Char) (after : List Char) :
    s.step (front ++ c :: after) front.length = s.take front.getLast? c after.head? := by
  have here : (front ++ c :: after)[front.length]? = some c := by simp
  have next : (front ++ c :: after)[front.length + 1]? = after.head? := by
    rw [List.getElem?_append_right (Nat.le_succ _), List.head?_eq_getElem?]
    simp
  rw [step, here, lookBack_append, next, Option.bind_some]

/-- A character is taken in without failure, and what is kept is kept up. -/
theorem Holds.take {s : Pass} {front : List Char} {c : Char} {after : List Char}
    (h : s.Holds front (c :: after)) :
    ∃ s', s.take front.getLast? c after.head? = some s' ∧ s'.Holds (front ++ [c]) after := by
  rw [Pass.take]
  by_cases hc : isAlphanumeric c
  · cases h with
    | @between complete _ _ ends kept made =>
      refine ⟨⟨complete, [] ++ [c]⟩, by simp [hc], .inside hc ?_ ?_⟩
      · rw [List.append_nil, kept]
      · rw [← List.append_cons, made, words_cons_of_alphanumeric hc, List.nil_append]
    | @inside complete word front _ p ends kept made =>
      have kept' : complete.flatten ++ (word ++ [p]) = (front ++ [p]).filter isAlphanumeric := by
        simp [List.filter_append, ends, ← kept]
      cases starts : startsWord p c after.head? with
      | true =>
        have capital : isUppercase c := by simp_all [startsWord]
        refine ⟨⟨complete ++ [word ++ [p]], [] ++ [c]⟩, ?_, .inside hc ?_ ?_⟩
        · simp [hc, capital, starts, close]
        · simpa using kept'
        · rw [← List.append_cons, made, wordsBehind, goesOn, starts,
            words_cons_of_alphanumeric hc]
          simp
      | false =>
        refine ⟨⟨complete, (word ++ [p]) ++ [c]⟩, ?_, .inside hc kept' ?_⟩
        · simp [hc, starts]
        · rw [← List.append_cons, made, wordsBehind, goesOn, starts, hc,
            words_cons_of_alphanumeric hc]
          exact congrArg (complete ++ ·) (joinFirst_wordsBehind _ _ _ _)
  · have stops : ∀ p ∈ (front ++ [c]).getLast?, ¬ isAlphanumeric p := by simpa using hc
    refine ⟨⟨s.close, []⟩, by simp [hc], .between stops ?_ ?_⟩
    · cases h with
      | between ends kept made => simpa [close, hc] using kept
      | inside ends kept made => simp [close, hc, ends, ← kept]
    · rw [← List.append_cons, ← words_cons_of_not hc after]
      cases h with
      | between ends kept made => simpa [close] using made
      | inside ends kept made =>
        rw [made]
        simp [close, wordsBehind, goesOn, hc]

/-- A pass gets to every place. -/
theorem holds_run (front back : List Char) :
    ∃ s : Pass, (List.range front.length).foldlM (Pass.step (front ++ back)) ⟨[], []⟩ = some s ∧
      s.Holds front back := by
  induction front using List.reverseRecOn generalizing back with
  | nil => exact ⟨_, rfl, .between (by simp) rfl rfl⟩
  | append_singleton front c ih =>
    obtain ⟨s, run, h⟩ := ih (c :: back)
    obtain ⟨s', taken, h'⟩ := h.take
    refine ⟨s', ?_, h'⟩
    rw [← List.append_cons, List.length_append, List.length_singleton, List.range_succ,
      List.foldlM_append, run]
    simp [step_append, taken]

/-- The pass never fails, and finds the words. -/
theorem words?_eq (name : List Char) : words? name = some (words name) := by
  obtain ⟨s, run, h⟩ := holds_run name []
  rw [List.append_nil] at run
  rw [words?, run]
  cases h with
  | between ends kept made => simp_all [close, words]
  | inside ends kept made => simp_all [close, words, wordsBehind, goesOn]

end Pass

/-! ### Words around a place -/

/-- A word is pending behind a letter or digit. -/
theorem exists_words_behind {p : Char} (hp : isAlphanumeric p) (front back : List Char) :
    ∃ ws word, ws.flatten ++ word = front.filter isAlphanumeric ∧
      words ((front ++ [p]) ++ back) = ws ++ wordsBehind (word ++ [p]) p back := by
  obtain ⟨s, -, h⟩ := Pass.holds_run (front ++ [p]) back
  generalize hall : front ++ [p] = all at h
  cases h with
  | between ends kept made =>
    subst hall
    exact absurd hp (ends p (by simp))
  | inside ends kept made =>
    obtain ⟨rfl, same⟩ := List.append_inj' hall rfl
    cases same
    exact ⟨_, _, kept, made⟩

/-- No word is pending behind what is neither. -/
theorem exists_words_apart {c : Char} (hc : ¬ isAlphanumeric c) (front back : List Char) :
    ∃ ws, ws.flatten = (front ++ [c]).filter isAlphanumeric ∧
      words ((front ++ [c]) ++ back) = ws ++ words back := by
  obtain ⟨s, -, h⟩ := Pass.holds_run (front ++ [c]) back
  generalize hall : front ++ [c] = all at h
  cases h with
  | between ends kept made => exact ⟨_, kept, made⟩
  | inside ends kept made =>
    obtain ⟨-, same⟩ := List.append_inj' hall rfl
    cases same
    exact absurd ends hc

/-- One word holds both `x` and `y`, the characters of a name that have `before` in front of them,
`between` between them and `after` behind them. -/
def InOneWord (before : List Char) (x : Char) (between : List Char) (y : Char)
    (after : List Char) : Prop :=
  ∃ ws front middle back ws',
    words (before ++ x :: (between ++ y :: after)) =
      ws ++ (front ++ x :: (middle ++ y :: back)) :: ws' ∧
    ws.flatten ++ front = before.filter isAlphanumeric ∧
    back ++ ws'.flatten = after.filter isAlphanumeric

section Places

variable {before between between' after : List Char} {x y : Char}

/-- Where the words of the front of a name are words of the name, no word has characters from both
sides. -/
theorem not_inOneWord {ws ws' : List (List Char)}
    (made : words ((before ++ x :: between) ++ (between' ++ y :: after)) = ws ++ ws')
    (kept : ws.flatten = (before ++ x :: between).filter isAlphanumeric) :
    ¬ InOneWord before x (between ++ between') y after := by
  rintro ⟨us, front, middle, back, us', held, hfront, hback⟩
  have whole : before ++ x :: ((between ++ between') ++ y :: after) =
      (before ++ x :: between) ++ (between' ++ y :: after) := by simp
  rw [whole] at held
  have letters := congrArg List.flatten held
  rw [flatten_words] at letters
  have letter : ∀ c ∈ (us ++ (front ++ x :: (middle ++ y :: back)) :: us').flatten,
      isAlphanumeric c := by
    intro c hc
    rw [← letters] at hc
    exact (List.mem_filter.mp hc).2
  have hx : isAlphanumeric x := letter x (by simp)
  have hy : isAlphanumeric y := letter y (by simp)
  replace letters := congrArg List.length letters
  replace kept := congrArg List.length kept
  replace hfront := congrArg List.length hfront
  replace hback := congrArg List.length hback
  simp only [List.filter_append, List.filter_cons_of_pos hx, List.filter_cons_of_pos hy,
    List.length_append, List.length_cons, List.flatten_append, List.flatten_cons]
    at letters kept hfront hback
  -- Without the word that holds both, the words of the front lack `x`; with it they have `y` too.
  rw [made, List.append_eq_append_iff] at held
  rcases held with ⟨more, rfl, -⟩ | ⟨more, rfl, hmore⟩
  · simp only [List.flatten_append, List.length_append] at hfront letters
    omega
  · cases more with
    | nil =>
      simp only [List.append_nil] at kept
      omega
    | cons word others =>
      obtain ⟨rfl, -⟩ := List.cons.inj hmore
      simp only [List.flatten_append, List.flatten_cons, List.length_append, List.length_cons]
        at kept
      omega

/-- Two letters or digits next to each other are in one word unless the second one begins a word. -/
theorem inOneWord_adjacent_iff (hx : isAlphanumeric x) (hy : isAlphanumeric y) :
    InOneWord before x [] y after ↔ startsWord x y after.head? = false := by
  obtain ⟨ws, word, kept, made⟩ := exists_words_behind hx before (y :: after)
  have whole : (before ++ [x]) ++ y :: after = before ++ x :: ([] ++ y :: after) := by simp
  cases starts : startsWord x y after.head? with
  | true =>
    refine iff_of_false ?_ Bool.true_eq_false.mp
    have cut : words ((before ++ [x]) ++ ([] ++ y :: after)) =
        (ws ++ [word ++ [x]]) ++ words (y :: after) := by
      rw [List.nil_append, made, wordsBehind, goesOn, starts]
      simp
    exact not_inOneWord cut (by simp [hx, ← kept])
  | false =>
    refine iff_of_true ?_ rfl
    obtain ⟨more, others, hwords⟩ := words_cons hy after
    have rest := flatten_words (y :: after)
    rw [hwords, List.filter_cons_of_pos hy] at rest
    refine ⟨ws, word, [], more, others, ?_, kept, (List.cons.inj rest).2⟩
    rw [← whole, made, wordsBehind, goesOn, starts, hy, hwords]
    simp [joinFirst]

/-- What is between two words keeps them apart. -/
theorem not_inOneWord_of_separated (h : ∃ c ∈ between, ¬ isAlphanumeric c) :
    ¬ InOneWord before x between y after := by
  obtain ⟨c, hc, apart⟩ := h
  obtain ⟨front, back, rfl⟩ := List.append_of_mem hc
  obtain ⟨ws, kept, made⟩ := exists_words_apart apart (before ++ x :: front) (back ++ y :: after)
  rw [List.append_cons]
  have cut : words ((before ++ x :: (front ++ [c])) ++ (back ++ y :: after)) =
      ws ++ words (back ++ y :: after) := by simpa using made
  exact not_inOneWord cut (by simpa using kept)

end Places

/-! ### The result -/

/-- The words of a name are its letters and digits, and none is empty. Of two that are next to each
other the second begins a word exactly if it is a capital and comes after a small letter, after a
digit, or after a capital and in front of a small letter. What has anything else in between is never
in one word. A pass over the name that looks at the places next to the current one finds these
words, and never looks at a place in front of the name. -/
theorem words_exact (name : List Char) :
    (words name).flatten = name.filter isAlphanumeric ∧
    (∀ word ∈ words name, word ≠ []) ∧
    (∀ before p c after, name = before ++ p :: c :: after → isAlphanumeric p → isAlphanumeric c →
      (¬ InOneWord before p [] c after ↔
        isUppercase c ∧ (isLowercase p ∨ p.isDigit ∨
          isUppercase p ∧ ∃ next ∈ after.head?, isLowercase next))) ∧
    (∀ before x between y after, name = before ++ x :: (between ++ y :: after) →
      (∃ c ∈ between, ¬ isAlphanumeric c) → ¬ InOneWord before x between y after) ∧
    Pass.words? name = some (words name) := by
  refine ⟨flatten_words name, ne_nil_of_mem_words, ?_, ?_, Pass.words?_eq name⟩
  · rintro before p c after - hp hc
    rw [inOneWord_adjacent_iff hp hc, Bool.not_eq_false, startsWord]
    cases after <;> simp [or_assoc]
  · rintro before x between y after - separated
    exact not_inOneWord_of_separated separated

/-- An acronym in front of a word, and an underscore in front of a digit. -/
theorem words_exact_acronym :
    ("XMLHttp_2Go".toList = "XM".toList ++ 'L' :: 'H' :: "ttp_2Go".toList ∧
      isAlphanumeric 'L' ∧ isAlphanumeric 'H' ∧
      ¬ InOneWord "XM".toList 'L' [] 'H' "ttp_2Go".toList) ∧
    ("XMLHttp_2Go".toList = "XMLHtt".toList ++ 'p' :: (['_'] ++ '2' :: "Go".toList) ∧
      (∃ c ∈ ['_'], ¬ isAlphanumeric c) ∧
      ¬ InOneWord "XMLHtt".toList 'p' ['_'] '2' "Go".toList) := by
  obtain ⟨-, -, adjacent, separated, -⟩ := words_exact "XMLHttp_2Go".toList
  have acronym : "XMLHttp_2Go".toList = "XM".toList ++ 'L' :: 'H' :: "ttp_2Go".toList := rfl
  have underscore : "XMLHttp_2Go".toList =
    "XMLHtt".toList ++ 'p' :: (['_'] ++ '2' :: "Go".toList) := rfl
  have letters : isAlphanumeric 'L' ∧ isAlphanumeric 'H' := by decide
  have capitals : isUppercase 'L' ∧ isUppercase 'H' := by decide
  have small : ∃ next ∈ "ttp_2Go".toList.head?, isLowercase next := ⟨'t', rfl, by decide⟩
  have boundary : isUppercase 'H' ∧ (isLowercase 'L' ∨ 'L'.isDigit ∨
      isUppercase 'L' ∧ ∃ next ∈ "ttp_2Go".toList.head?, isLowercase next) :=
    ⟨capitals.2, Or.inr (Or.inr ⟨capitals.1, small⟩)⟩
  have between : ∃ c ∈ ['_'], ¬ isAlphanumeric c :=
    ⟨'_', List.mem_singleton_self _, by decide +kernel⟩
  have apart := (adjacent _ _ _ _ acronym letters.1 letters.2).mpr boundary
  have parted := separated _ _ _ _ _ underscore between
  exact ⟨⟨acronym, letters.1, letters.2, apart⟩, underscore, between, parted⟩

end GraphTypes.Name
