import Mathlib.Data.List.TakeWhile
import GraphTypes.Proofs.Config.Checks

/-!
# Mentions of the type parameter

A text can be cut into runs, the longest parts that hold nothing but characters of identifiers, in
one way only (`cutInto_iff`). A template mentions the type parameter if one of its runs is `T`, and
this can be seen place by place, from what is next to the place (`mentionsParameter_exact`). A
character that no identifier holds belongs to no run, so a template that is cut there mentions what
its two parts mention.
-/

namespace GraphTypes.Config

variable {c : Char} {text front back before run after rest : List Char}
  {runs : List (List Char)}

/-! ### Runs -/

/-- The runs of a text, in their order: what is between the characters that no identifier holds. -/
def identifierRuns (text : List Char) : List (List Char) :=
  (text.splitOnP fun c => !inIdentifier c).filter fun run => !run.isEmpty

/-- A run, given what is in front of it and behind it: it holds characters of identifiers, and no
such character is next to it. -/
structure IsRun (before run after : List Char) : Prop where
  nonempty : run ≠ []
  inside : ∀ c ∈ run, inIdentifier c
  begins : ∀ c ∈ before.getLast?, ¬ inIdentifier c
  ends : ∀ c ∈ after.head?, ¬ inIdentifier c

/-- How a text is cut into runs. -/
inductive CutInto : List Char → List (List Char) → Prop
  | nil : CutInto [] []
  | between {c : Char} {rest : List Char} {runs : List (List Char)} (apart : ¬ inIdentifier c)
    (others : CutInto rest runs) : CutInto (c :: rest) runs
  | run {run rest : List Char} {runs : List (List Char)} (first : IsRun [] run rest)
    (others : CutInto rest runs) : CutInto (run ++ rest) (run :: runs)

@[simp]
theorem identifierRuns_nil : identifierRuns [] = [] := rfl

/-- What no identifier holds keeps apart the runs on both sides. -/
theorem identifierRuns_append_cons (apart : ¬ inIdentifier c) (front back : List Char) :
    identifierRuns (front ++ c :: back) = identifierRuns front ++ identifierRuns back := by
  rw [identifierRuns, List.splitOnP_append_cons _ _ (by simpa using apart), List.filter_append]
  rfl

theorem identifierRuns_cons (apart : ¬ inIdentifier c) (rest : List Char) :
    identifierRuns (c :: rest) = identifierRuns rest :=
  identifierRuns_append_cons apart [] rest

/-- A text that ends in something that no identifier holds has its runs to itself. -/
theorem identifierRuns_append_of_getLast? (apart : ∀ c ∈ front.getLast?, ¬ inIdentifier c) :
    identifierRuns (front ++ back) = identifierRuns front ++ identifierRuns back := by
  rcases List.eq_nil_or_concat' front with rfl | ⟨others, c, rfl⟩
  · simp
  · have hc : ¬ inIdentifier c := apart c List.getLast?_concat
    rw [← List.append_cons, identifierRuns_append_cons hc, identifierRuns_append_cons hc,
      identifierRuns_nil, List.append_nil]

/-- So has one behind which something comes that no identifier holds. -/
theorem identifierRuns_append_of_head? (apart : ∀ c ∈ back.head?, ¬ inIdentifier c) :
    identifierRuns (front ++ back) = identifierRuns front ++ identifierRuns back := by
  cases back with
  | nil => simp
  | cons c rest =>
    have hc : ¬ inIdentifier c := apart c rfl
    rw [identifierRuns_append_cons hc, identifierRuns_cons hc]

theorem identifierRuns_of_forall (nonempty : run ≠ []) (inside : ∀ c ∈ run, inIdentifier c) :
    identifierRuns run = [run] := by
  rw [identifierRuns, List.splitOnP_eq_singleton (by simpa using inside)]
  simpa using nonempty

theorem IsRun.identifierRuns_eq (h : IsRun before run after) :
    identifierRuns (before ++ (run ++ after)) =
      identifierRuns before ++ run :: identifierRuns after := by
  rw [identifierRuns_append_of_getLast? h.begins, identifierRuns_append_of_head? h.ends,
    identifierRuns_of_forall h.nonempty h.inside, List.singleton_append]

theorem IsRun.identifierRuns_first (h : IsRun [] run after) :
    identifierRuns (run ++ after) = run :: identifierRuns after :=
  h.identifierRuns_eq

/-! ### Cutting a text -/

theorem CutInto.eq_identifierRuns (h : CutInto text runs) : runs = identifierRuns text := by
  induction h with
  | nil => rfl
  | between apart _ ih => rw [ih, identifierRuns_cons apart]
  | run first _ ih => rw [ih, first.identifierRuns_first]

/-- An identifier's character begins a run, which goes on as long as it can. -/
theorem exists_isRun_append (hc : inIdentifier c) (rest : List Char) :
    ∃ run after, c :: rest = run ++ after ∧ IsRun [] run after := by
  refine ⟨(c :: rest).takeWhile inIdentifier, (c :: rest).dropWhile inIdentifier,
    List.takeWhile_append_dropWhile.symm, ?_⟩
  exact
    { nonempty := by simp [hc]
      inside := fun _ hd => List.mem_takeWhile_imp hd
      begins := by simp
      ends := Text.not_head?_dropWhile inIdentifier _ }

theorem cutInto_identifierRuns (text : List Char) : CutInto text (identifierRuns text) := by
  -- A run is cut off as a whole, so what is left is shorter, but not by one character.
  induction hlength : text.length using Nat.strong_induction_on generalizing text with
  | _ n ih =>
    subst hlength
    cases text with
    | nil => exact .nil
    | cons c rest =>
      by_cases hc : inIdentifier c
      · obtain ⟨run, after, split, first⟩ := exists_isRun_append hc rest
        have shorter : after.length < (c :: rest).length := by
          have something := List.length_pos_iff.mpr first.nonempty
          rw [split, List.length_append]
          omega
        rw [split, first.identifierRuns_first]
        exact .run first (ih _ shorter after rfl)
      · rw [identifierRuns_cons hc]
        exact .between hc (ih _ (Nat.lt_succ_self _) rest rfl)

/-- There is one way to cut a text into runs. -/
theorem cutInto_iff : CutInto text runs ↔ runs = identifierRuns text :=
  ⟨CutInto.eq_identifierRuns, fun h => h ▸ cutInto_identifierRuns text⟩

/-- What a text is cut into are runs where they stand. -/
theorem CutInto.exists_isRun (h : CutInto text runs) (member : run ∈ runs) :
    ∃ before after, text = before ++ (run ++ after) ∧ IsRun before run after := by
  induction h with
  | nil => cases member
  | @between c _ _ apart _ ih =>
    obtain ⟨before, after, rfl, found⟩ := ih member
    refine ⟨c :: before, after, rfl, { found with begins := ?_ }⟩
    rw [List.getLast?_cons]
    cases last : before.getLast? with
    | none => simpa using apart
    | some d => simpa using found.begins d last
  | @run piece rest _ first _ ih =>
    rcases List.mem_cons.mp member with rfl | member
    · exact ⟨[], rest, rfl, first⟩
    · obtain ⟨before, after, rfl, found⟩ := ih member
      refine ⟨piece ++ before, after, by simp, { found with begins := ?_ }⟩
      -- Something is in front of the later run, or else the first run would not end there.
      have apart : before ≠ [] := by
        rintro rfl
        obtain ⟨d, others, rfl⟩ := List.exists_cons_of_ne_nil found.nonempty
        exact first.ends d rfl (found.inside d List.mem_cons_self)
      rw [List.getLast?_append_of_ne_nil _ apart]
      exact found.begins

theorem mem_identifierRuns_iff :
    run ∈ identifierRuns text ↔
      ∃ before after, text = before ++ (run ++ after) ∧ IsRun before run after := by
  constructor
  · exact (cutInto_identifierRuns text).exists_isRun
  · rintro ⟨before, after, rfl, found⟩
    rw [found.identifierRuns_eq]
    exact List.mem_append_right _ List.mem_cons_self

/-! ### Mentions -/

theorem mentions_iff_mem_identifierRuns : Mentions text ↔ "T".toList ∈ identifierRuns text := by
  rw [mem_identifierRuns_iff, Mentions]
  refine exists_congr fun before => exists_congr fun after => and_congr_right fun _ => ?_
  have parameter : inIdentifier 'T' := by decide
  constructor
  · rintro ⟨begins, ends⟩
    exact ⟨by decide, by simpa using parameter, begins, ends⟩
  · intro found
    exact ⟨found.begins, found.ends⟩

/-- The test of one place: `T` is there, and no character of an identifier is next to it. What is in
front is looked at behind the first place only. -/
def standsAlone (text : List Char) (i : Nat) : Bool :=
  text[i]? == some 'T' && (i == 0 || !text[i - 1]?.any inIdentifier) &&
    !text[i + 1]?.any inIdentifier

/-- Where `T` is known to be, the test sees what is next to it. -/
theorem standsAlone_append_iff :
    standsAlone (before ++ 'T' :: after) before.length ↔
      (∀ c ∈ before.getLast?, ¬ inIdentifier c) ∧ ∀ c ∈ after.head?, ¬ inIdentifier c := by
  have here : (before ++ 'T' :: after)[before.length]? = some 'T' := by simp
  have behind : (before ++ 'T' :: after)[before.length + 1]? = after.head? := by
    rw [List.getElem?_append_right (Nat.le_succ _), List.head?_eq_getElem?]
    simp
  rw [standsAlone, here, behind]
  rcases List.eq_nil_or_concat' before with rfl | ⟨others, d, rfl⟩
  · simp [Option.any_eq_false]
  · simp [Option.any_eq_false]

theorem mentions_iff_any_standsAlone :
    Mentions text ↔ (List.range text.length).any (standsAlone text) := by
  rw [List.any_eq_true]
  constructor
  · rintro ⟨before, after, rfl, alone⟩
    exact ⟨before.length, by simp, standsAlone_append_iff.mpr alone⟩
  · rintro ⟨i, -, found⟩
    have here : text[i]? = some 'T' := by
      rw [standsAlone, Bool.and_eq_true, Bool.and_eq_true, beq_iff_eq] at found
      exact found.1.1
    obtain ⟨within, char⟩ := List.getElem?_eq_some_iff.mp here
    have split : text.take i ++ 'T' :: text.drop (i + 1) = text := by
      rw [← char, List.getElem_cons_drop, List.take_append_drop]
    have place : (text.take i).length = i := List.length_take_of_le (Nat.le_of_lt within)
    have alone : standsAlone (text.take i ++ 'T' :: text.drop (i + 1)) (text.take i).length := by
      rw [split, place]
      exact found
    exact ⟨_, _, split.symm, standsAlone_append_iff.mp alone⟩

/-- A text is cut into runs in one way. A template mentions the type parameter exactly if one of its
runs is `T`, and the test of each of its places finds that out. Of two templates with a character
between them that no identifier holds, the whole mentions what either of them mentions. -/
theorem mentionsParameter_exact (template : String) :
    (∀ runs, CutInto template.toList runs ↔ runs = identifierRuns template.toList) ∧
    (mentionsParameter template ↔ "T".toList ∈ identifierRuns template.toList) ∧
    mentionsParameter template =
      (List.range template.toList.length).any (standsAlone template.toList) ∧
    ∀ (c : Char) (other : String), ¬ inIdentifier c →
      mentionsParameter (template ++ String.singleton c ++ other) =
        (mentionsParameter template || mentionsParameter other) := by
  have byRuns : ∀ template : String,
      mentionsParameter template ↔ "T".toList ∈ identifierRuns template.toList :=
    fun template => mentionsParameter_iff.trans mentions_iff_mem_identifierRuns
  refine ⟨fun runs => cutInto_iff, byRuns template, ?_, ?_⟩
  · rw [Bool.eq_iff_iff, mentionsParameter_iff]
    exact mentions_iff_any_standsAlone
  · intro c other apart
    have joined : (template ++ String.singleton c ++ other).toList =
        template.toList ++ c :: other.toList := by simp
    rw [Bool.eq_iff_iff, Bool.or_eq_true, byRuns, byRuns, byRuns, joined,
      identifierRuns_append_cons apart, List.mem_append]

/-- `T` as a part of an identifier only, and the parameter itself behind a bracket. -/
theorem mentionsParameter_exact_applied :
    CutInto "$T | Tagged<T>".toList ["$T".toList, "Tagged".toList, "T".toList] ∧
      ¬ inIdentifier '<' ∧ mentionsParameter "$T | Tagged" = false ∧
      mentionsParameter ("$T | Tagged" ++ String.singleton '<' ++ "T>") = true := by
  obtain ⟨cut, -, -, -⟩ := mentionsParameter_exact "$T | Tagged<T>"
  obtain ⟨-, -, places, joined⟩ := mentionsParameter_exact "$T | Tagged"
  have bracket : ¬ inIdentifier '<' := by decide
  have without : mentionsParameter "$T | Tagged" = false := by
    rw [places]
    decide +kernel
  have behind : mentionsParameter "T>" = true :=
    (mentionsParameter_exact "T>").2.1.mpr (by decide +kernel)
  refine ⟨(cut _).mpr (by decide +kernel), bracket, without, ?_⟩
  rw [joined '<' "T>" bracket, without, behind]
  rfl

end GraphTypes.Config
