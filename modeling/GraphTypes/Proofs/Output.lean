import Mathlib.Data.List.Induction
import Mathlib.Data.List.Nodup
import GraphTypes.Output

/-!
# Merged outputs

Lines are added one by one to those that are there, and imports are moved to the front after every
merge. Neither is felt in the result: adding is associative whatever the lines are, and imports and
other lines never mix, so each of the two groups can be looked at alone (`importsFirst_congr`). Hence
it does not matter in which order outputs are merged pairwise, and what comes of a whole sequence can
be said from its lines alone (`IsPreambleOf`), and so can the text of the file (`IsFileOf`).
-/

namespace GraphTypes.Output

/-! ### Adding lines -/

variable {lines more others all : List String} {line : String}

theorem mem_addMissing : line ∈ addMissing lines more ↔ line ∈ lines ∨ line ∈ more := by
  induction more generalizing lines with
  | nil => simp [addMissing]
  | cons first rest ih =>
    rw [addMissing, ih, List.mem_cons, ← or_assoc]
    apply or_congr_left
    split
    · next known =>
      constructor
      · exact Or.inl
      · rintro (h | rfl)
        · exact h
        · exact List.contains_iff_mem.mp known
    · rw [List.mem_append, List.mem_singleton]

theorem addMissing_append (lines more others : List String) :
    addMissing lines (more ++ others) = addMissing (addMissing lines more) others := by
  induction more generalizing lines with
  | nil => rfl
  | cons first rest ih => rw [List.cons_append, addMissing, addMissing, ih]

/-- The last line is added if it is among none of the others. -/
theorem addMissing_concat (lines more : List String) (line : String) :
    addMissing lines (more ++ [line]) =
      if line ∈ lines ∨ line ∈ more then addMissing lines more
      else addMissing lines more ++ [line] := by
  rw [addMissing_append, addMissing, addMissing]
  simp only [List.contains_iff_mem, mem_addMissing]

/-- Lines that were added before are not added again, so they can be put together first. -/
theorem addMissing_assoc (lines more others : List String) :
    addMissing (addMissing lines more) others = addMissing lines (addMissing more others) := by
  induction others generalizing more with
  | nil => rfl
  | cons first rest ih =>
    have step : (if (addMissing lines more).contains first then addMissing lines more
        else addMissing lines more ++ [first]) =
          addMissing lines (if more.contains first then more else more ++ [first]) := by
      by_cases known : first ∈ more
      · have added : first ∈ addMissing lines more := mem_addMissing.mpr (Or.inr known)
        rw [if_pos (List.contains_iff_mem.mpr known), if_pos (List.contains_iff_mem.mpr added)]
      · rw [if_neg (known <| List.contains_iff_mem.mp ·), addMissing_concat]
        simp only [List.contains_iff_mem, mem_addMissing]
    rw [addMissing, step, ih, addMissing]

/-- Adding lines of one group does not depend on those of another. -/
theorem filter_addMissing (p : String → Bool) (lines more : List String) :
    (addMissing lines more).filter p = addMissing (lines.filter p) (more.filter p) := by
  induction more generalizing lines with
  | nil => rfl
  | cons first rest ih =>
    rw [addMissing, ih]
    cases kept : p first with
    | true =>
      have known : (lines.filter p).contains first = lines.contains first := by
        rw [Bool.eq_iff_iff]
        simp [kept]
      rw [List.filter_cons_of_pos kept, addMissing, known]
      split
      · rfl
      · rw [List.filter_append, List.filter_singleton, kept]
        rfl
    | false =>
      rw [List.filter_cons_of_neg (by simp [kept])]
      split
      · rfl
      · rw [List.filter_append, List.filter_singleton, kept]
        simp

/-! ### Imports and other lines -/

theorem filter_importsFirst (lines : List String) :
    (importsFirst lines).filter isImport = lines.filter isImport ∧
      (importsFirst lines).filter (!isImport ·) = lines.filter (!isImport ·) := by
  constructor <;> simp [importsFirst, List.filter_filter]

/-- What imports are put in front of depends on the two groups of lines alone. -/
theorem importsFirst_congr (imports : lines.filter isImport = more.filter isImport)
    (rest : lines.filter (!isImport ·) = more.filter (!isImport ·)) :
    importsFirst lines = importsFirst more := by
  rw [importsFirst, importsFirst, imports, rest]

theorem importsFirst_importsFirst (lines : List String) :
    importsFirst (importsFirst lines) = importsFirst lines :=
  importsFirst_congr (filter_importsFirst lines).1 (filter_importsFirst lines).2

/-- It makes no difference whether imports are in front of the lines that are added to. -/
theorem importsFirst_addMissing_left (lines more : List String) :
    importsFirst (addMissing (importsFirst lines) more) = importsFirst (addMissing lines more) := by
  obtain ⟨imports, rest⟩ := filter_importsFirst lines
  apply importsFirst_congr
  · rw [filter_addMissing, filter_addMissing, imports]
  · rw [filter_addMissing, filter_addMissing, rest]

/-- It makes no difference whether imports are in front of the lines that are added. -/
theorem importsFirst_addMissing_right (lines more : List String) :
    importsFirst (addMissing lines (importsFirst more)) = importsFirst (addMissing lines more) := by
  obtain ⟨imports, rest⟩ := filter_importsFirst more
  apply importsFirst_congr
  · rw [filter_addMissing, filter_addMissing, imports]
  · rw [filter_addMissing, filter_addMissing, rest]

theorem mem_importsFirst : line ∈ importsFirst lines ↔ line ∈ lines := by
  rw [importsFirst, List.mem_append, List.mem_filter, List.mem_filter]
  cases isImport line <;> simp

/-! ### Contents -/

@[simp] theorem joinContent_empty_left (b : String) : joinContent "" b = b := if_pos rfl

@[simp] theorem joinContent_empty_right (a : String) : joinContent a "" = a := by
  rw [joinContent]
  split
  · next empty => exact empty.symm
  · rfl

theorem joinContent_of_ne {a b : String} (ha : a ≠ "") (hb : b ≠ "") :
    joinContent a b = a ++ "\n\n" ++ b := by
  rw [joinContent, if_neg ha, if_neg hb]

theorem joinContent_ne {a : String} (ha : a ≠ "") (b : String) : joinContent a b ≠ "" := by
  by_cases hb : b = ""
  · rwa [hb, joinContent_empty_right]
  · simp [joinContent_of_ne ha hb, ha]

theorem joinContent_assoc (a b c : String) :
    joinContent (joinContent a b) c = joinContent a (joinContent b c) := by
  by_cases ha : a = ""
  · rw [ha, joinContent_empty_left, joinContent_empty_left]
  by_cases hb : b = ""
  · rw [hb, joinContent_empty_left, joinContent_empty_right]
  by_cases hc : c = ""
  · rw [hc, joinContent_empty_right, joinContent_empty_right]
  · rw [joinContent_of_ne (joinContent_ne ha b) hc, joinContent_of_ne ha hb,
      joinContent_of_ne ha (joinContent_ne hb c), joinContent_of_ne hb hc]
    simp only [String.append_assoc]

/-- The texts that are not empty, with a blank line between them. -/
def joinContents (contents : List String) : String :=
  String.intercalate "\n\n" (contents.filter (· ≠ ""))

/-- A blank line stands between the first text and the others if there are any. -/
theorem joinContents_cons (content : String) (contents : List String) :
    joinContents (content :: contents) = joinContent content (joinContents contents) := by
  by_cases empty : content = ""
  · rw [joinContents, List.filter_cons_of_neg (by simp [empty]), empty, joinContent_empty_left,
      joinContents]
  rw [joinContents, joinContents, List.filter_cons_of_pos (by simp [empty])]
  cases others : contents.filter (· ≠ "") with
  | nil => rw [String.intercalate_singleton, String.intercalate_nil, joinContent_empty_right]
  | cons second rest =>
    have front : second ∈ contents.filter (· ≠ "") := others ▸ List.mem_cons_self
    have something : second ≠ "" := by simpa using (List.mem_filter.mp front).2
    have joined : String.intercalate "\n\n" (second :: rest) ≠ "" := by
      cases rest <;> simp [something]
    rw [String.intercalate_cons_cons, joinContent_of_ne empty joined]

/-! ### Sequences of outputs -/

theorem merge_assoc (a b c : Output) : (a.merge b).merge c = a.merge (b.merge c) := by
  have lines : importsFirst (addMissing (importsFirst (addMissing a.preamble b.preamble))
      c.preamble) = importsFirst (addMissing a.preamble
        (importsFirst (addMissing b.preamble c.preamble))) := by
    rw [importsFirst_addMissing_left, importsFirst_addMissing_right, addMissing_assoc]
  simp only [merge, lines, joinContent_assoc]

theorem preamble_foldl_merge (outputs : List Output) {o : Output}
    (sorted : importsFirst o.preamble = o.preamble) :
    (outputs.foldl merge o).preamble =
      importsFirst (addMissing o.preamble (outputs.flatMap (·.preamble))) := by
  induction outputs generalizing o with
  | nil => exact sorted.symm
  | cons next rest ih =>
    have step : (o.merge next).preamble = importsFirst (addMissing o.preamble next.preamble) := rfl
    rw [List.foldl_cons, ih (by rw [step, importsFirst_importsFirst]), step,
      importsFirst_addMissing_left, List.flatMap_cons, addMissing_append]

theorem content_foldl_merge (outputs : List Output) (o : Output) :
    (outputs.foldl merge o).content =
      joinContent o.content (joinContents (outputs.map (·.content))) := by
  induction outputs generalizing o with
  | nil => exact (joinContent_empty_right o.content).symm
  | cons next rest ih =>
    rw [List.foldl_cons, ih, List.map_cons, joinContents_cons, ← joinContent_assoc]
    rfl

/-! ### The order of lines -/

/-- A line that begins with the word `import` and a blank. -/
def IsImport (line : String) : Prop := ∃ rest, line = "import " ++ rest

theorem isImport_iff : isImport line ↔ IsImport line := by
  rw [isImport, List.isPrefixOf_iff_prefix]
  constructor
  · rintro ⟨rest, begins⟩
    refine ⟨String.ofList rest, String.toList_inj.mp ?_⟩
    rw [← begins, String.toList_append]
    exact congrArg _ (String.toList_ofList).symm
  · rintro ⟨rest, rfl⟩
    exact ⟨rest.toList, (String.toList_append ..).symm⟩

theorem not_isImport_iff : (!isImport line) = true ↔ ¬ IsImport line := by
  rw [← isImport_iff, Bool.not_eq_true', Bool.not_eq_true]

/-- Whether a line has to stand above another one: imports stand above other lines, and lines that
are both imports, or both not, in the order in which they first appear. -/
def Precedes (all : List String) (above below : String) : Prop :=
  IsImport above ∧ ¬ IsImport below ∨
    (IsImport above ↔ IsImport below) ∧ all.idxOf above < all.idxOf below

/-- The lines of several outputs, each once and in the order in which they have to stand. -/
structure IsPreambleOf (all lines : List String) : Prop where
  mem : ∀ line, line ∈ lines ↔ line ∈ all
  nodup : lines.Nodup
  sorted : lines.Pairwise (Precedes all)

theorem IsPreambleOf.eq {lines' : List String} (h : IsPreambleOf all lines)
    (h' : IsPreambleOf all lines') : lines = lines' := by
  have perm : lines.Perm lines' := by
    rw [List.perm_ext_iff_of_nodup h.nodup h'.nodup]
    exact fun line => (h.mem line).trans (h'.mem line).symm
  refine perm.eq_of_pairwise ?_ h.sorted h'.sorted
  rintro a b - - (⟨ha, hb⟩ | ⟨same, hab⟩) (⟨hb', ha'⟩ | ⟨same', hba⟩)
  · exact absurd hb' hb
  · exact absurd (same'.mpr ha) hb
  · exact absurd (same.mpr hb') ha'
  · exact absurd hba (Nat.lt_asymm hab)

/-- Lines that are added to none stand in the order in which they first appear. -/
theorem pairwise_addMissing (all : List String) :
    (addMissing [] all).Pairwise fun a b => all.idxOf a < all.idxOf b := by
  induction all using List.reverseRecOn with
  | nil => exact .nil
  | append_singleton front last ih =>
    have among : ∀ {line}, line ∈ addMissing [] front → line ∈ front := by
      intro line h
      simpa [mem_addMissing] using h
    have older : (addMissing [] front).Pairwise fun a b =>
        (front ++ [last]).idxOf a < (front ++ [last]).idxOf b := by
      apply ih.imp_of_mem
      intro a b ha hb before
      rwa [List.idxOf_append_of_mem (among ha), List.idxOf_append_of_mem (among hb)]
    rw [addMissing_concat]
    split
    · exact older
    · next new =>
      have new : last ∉ front := fun h => new (Or.inr h)
      refine List.pairwise_append.mpr ⟨older, List.pairwise_singleton _ _, ?_⟩
      intro a ha b hb
      rw [List.mem_singleton.mp hb, List.idxOf_append_of_mem (among ha),
        List.idxOf_append_of_notMem new]
      exact Nat.lt_add_right _ (List.idxOf_lt_length_iff.mpr (among ha))

theorem Precedes.ne {a b : String} (h : Precedes all a b) : a ≠ b := by
  rintro rfl
  rcases h with ⟨ha, hb⟩ | ⟨-, before⟩
  · exact hb ha
  · exact Nat.lt_irrefl _ before

theorem isPreambleOf_importsFirst (all : List String) :
    IsPreambleOf all (importsFirst (addMissing [] all)) := by
  have sorted : (importsFirst (addMissing [] all)).Pairwise (Precedes all) := by
    -- In each group the order is that of the whole.
    have group : ∀ p : String → Bool, (∀ {a b}, p a → p b → (IsImport a ↔ IsImport b)) →
        ((addMissing [] all).filter p).Pairwise (Precedes all) := by
      intro p same
      apply ((pairwise_addMissing all).filter p).imp_of_mem
      intro a b ha hb before
      exact Or.inr ⟨same (List.mem_filter.mp ha).2 (List.mem_filter.mp hb).2, before⟩
    refine List.pairwise_append.mpr ⟨group _ ?_, group _ ?_, ?_⟩
    · intro a b ha hb
      exact iff_of_true (isImport_iff.mp ha) (isImport_iff.mp hb)
    · intro a b ha hb
      exact iff_of_false (not_isImport_iff.mp ha) (not_isImport_iff.mp hb)
    · intro a ha b hb
      exact Or.inl ⟨isImport_iff.mp (List.mem_filter.mp ha).2,
        not_isImport_iff.mp (List.mem_filter.mp hb).2⟩
  constructor
  · intro line
    rw [mem_importsFirst, mem_addMissing, or_iff_right List.not_mem_nil]
  · exact sorted.imp Precedes.ne
  · exact sorted

theorem isPreambleOf_merged (outputs : List Output) :
    IsPreambleOf (outputs.flatMap (·.preamble)) (outputs.foldl merge empty).preamble := by
  rw [preamble_foldl_merge outputs (by rfl)]
  exact isPreambleOf_importsFirst _

theorem content_merged (outputs : List Output) :
    (outputs.foldl merge empty).content = joinContents (outputs.map (·.content)) := by
  rw [content_foldl_merge, empty, joinContent_empty_left]

/-! ### The text of a file -/

/-- The text of a file with lines at its top and code below them. Each line ends in a line break, and
so does the code. A blank line stands between the two if there are both. -/
inductive IsFile (lines : List String) (content : String) : String → Prop
  | top (empty : content = "") : IsFile lines content (String.join (lines.map (· ++ "\n")))
  | code (bare : lines = []) (given : content ≠ "") : IsFile lines content (content ++ "\n")
  | both (above : lines ≠ []) (given : content ≠ "") :
    IsFile lines content (String.join (lines.map (· ++ "\n")) ++ "\n" ++ content ++ "\n")

/-- The text of the file that several outputs make together. -/
def IsFileOf (outputs : List Output) (text : String) : Prop :=
  ∃ lines, IsPreambleOf (outputs.flatMap (·.preamble)) lines ∧
    IsFile lines (joinContents (outputs.map (·.content))) text

theorem isFile_source (o : Output) : IsFile o.preamble o.content o.source := by
  rw [source]
  by_cases empty : o.content = ""
  · simp only [empty, decide_true, Bool.or_true, if_true, String.append_empty]
    exact .top rfl
  · cases o.preamble with
    | nil => simpa [empty] using IsFile.code rfl empty
    | cons first rest =>
      simpa [empty, String.append_assoc] using IsFile.both (List.cons_ne_nil first rest) empty

theorem isFileOf_merged (outputs : List Output) :
    IsFileOf outputs (outputs.foldl merge empty).source := by
  refine ⟨_, isPreambleOf_merged outputs, ?_⟩
  rw [← content_merged]
  exact isFile_source _

/-! ### The result -/

/-- The lines of outputs that are merged in turn are, each once, those of the outputs, the imports
in front and both groups in the order of first appearance. Their contents stand below one another
with a blank line in between. Pairwise merging is associative for any outputs. -/
theorem merging_laws :
    (∀ outputs : List Output,
      (∀ lines, IsPreambleOf (outputs.flatMap (·.preamble)) lines ↔
        lines = (outputs.foldl merge empty).preamble) ∧
      (outputs.foldl merge empty).content =
        String.intercalate "\n\n" ((outputs.map (·.content)).filter (· ≠ ""))) ∧
    ∀ a b c : Output, (a.merge b).merge c = a.merge (b.merge c) := by
  refine ⟨fun outputs => ⟨fun lines => ?_, content_merged outputs⟩, merge_assoc⟩
  have merged := isPreambleOf_merged outputs
  constructor
  · exact fun h => h.eq merged
  · rintro rfl
    exact merged

/-- Lines that are there twice stay if they are there from the start. -/
example :
    (({ preamble := ["b", "b"] } : Output).merge { preamble := ["c", "import a", "c"] }).preamble =
      ["import a", "b", "b", "c"] := by decide

end GraphTypes.Output
