import Mathlib.Data.List.Forall2
import GraphTypes.Dictionary

/-!
# Entries of dictionaries

As the names of the entries are in strict order, no two entries share one: looking up a name finds a
value exactly if the two are an entry.
-/

namespace GraphTypes.Dictionary

variable {α β ε : Type}

theorem nodup_keys (d : Dictionary α) : d.keys.Nodup := by
  apply d.sorted.imp
  rintro k _ hlt rfl
  exact String.lt_irrefl k hlt

theorem lookup_eq_some_iff_of_nodup {entries : List (String × α)}
    (nodup : (entries.map Prod.fst).Nodup) {key : String} {value : α} :
    entries.lookup key = some value ↔ (key, value) ∈ entries := by
  induction entries with
  | nil => simp
  | cons entry rest ih =>
    obtain ⟨k, v⟩ := entry
    rw [List.map_cons, List.nodup_cons] at nodup
    rw [lookup_cons_if, List.mem_cons]
    split
    · next heq =>
      subst heq
      -- The name is that of the first entry, so no later entry has it.
      have absent : (key, value) ∉ rest := by
        intro hmem
        exact nodup.1 (List.mem_map.mpr ⟨(key, value), hmem, rfl⟩)
      simp [absent, eq_comm]
    · next hne =>
      rw [ih nodup.2]
      simp [hne]

/-- Looking up a name finds the value that is entered under it. -/
theorem get?_eq_some_iff {d : Dictionary α} {key : String} {value : α} :
    d.get? key = some value ↔ (key, value) ∈ d.entries :=
  lookup_eq_some_iff_of_nodup d.nodup_keys

/-! ### Checked entries -/

/-- Each entry of the second list has the name of its entry in the first, and what `f` made of the
value. -/
abbrev Checked (f : String → α → Except ε β) : List (String × α) → List (String × β) → Prop :=
  List.Forall₂ fun given made => made.1 = given.1 ∧ f given.1 given.2 = .ok made.2

variable {f : String → α → Except ε β}

theorem checked_of_traverseEntries {entries : List (String × α)}
    {out : { out : List (String × β) // out.map Prod.fst = entries.map Prod.fst }}
    (h : traverseEntries f entries = .ok out) : Checked f entries out.val := by
  induction entries with
  | nil =>
    cases h
    exact .nil
  | cons entry rest ih =>
    obtain ⟨k, given⟩ := entry
    rw [traverseEntries] at h
    split at h
    · cases h
    · next made hmade =>
      split at h
      · cases h
      · next others heq hrest =>
        cases h
        exact .cons ⟨rfl, hmade⟩ (ih hrest)

theorem Checked.traverseEntries_eq {entries : List (String × α)} {out : List (String × β)}
    (h : Checked f entries out) : ∃ hkeys, traverseEntries f entries = .ok ⟨out, hkeys⟩ := by
  induction h with
  | nil => exact ⟨rfl, rfl⟩
  | @cons given made entries out first _ ih =>
    obtain ⟨k, value⟩ := given
    obtain ⟨k', value'⟩ := made
    obtain ⟨rfl, hmade⟩ := first
    obtain ⟨hkeys, hrest⟩ := ih
    refine ⟨by simp [hkeys], ?_⟩
    rw [traverseEntries, hmade, hrest]

theorem Checked.exists_of_mem {entries : List (String × α)} {out : List (String × β)}
    (h : Checked f entries out) {given : String × α} (hmem : given ∈ entries) :
    ∃ made, f given.1 given.2 = .ok made := by
  induction h with
  | nil => cases hmem
  | @cons _ made _ _ first _ ih =>
    rcases List.mem_cons.mp hmem with rfl | hmem
    · exact ⟨made.2, first.2⟩
    · exact ih hmem

theorem Checked.exists_of_mem_made {entries : List (String × α)} {out : List (String × β)}
    (h : Checked f entries out) {made : String × β} (hmem : made ∈ out) :
    ∃ given, f made.1 given = .ok made.2 := by
  induction h with
  | nil => cases hmem
  | @cons given _ _ _ first _ ih =>
    rcases List.mem_cons.mp hmem with rfl | hmem
    · exact ⟨given.2, first.1 ▸ first.2⟩
    · exact ih hmem

/-- A dictionary passes exactly if all its entries do, and is made of what they are replaced by. -/
theorem traverse_eq_ok_iff {d : Dictionary α} {out : Dictionary β} :
    d.traverse f = .ok out ↔ Checked f d.entries out.entries := by
  constructor
  · intro h
    rw [traverse] at h
    split at h
    · cases h
    · next entries hkeys hentries =>
      cases h
      exact checked_of_traverseEntries hentries
  · intro h
    obtain ⟨hkeys, hentries⟩ := h.traverseEntries_eq
    rw [traverse, hentries]

/-- Every value of a checked dictionary is what some given value was replaced by. -/
theorem mem_traverse {d : Dictionary α} {out : Dictionary β} (h : d.traverse f = .ok out)
    {key : String} {value : β} (hmem : (key, value) ∈ out.entries) :
    ∃ given, f key given = .ok value :=
  (traverse_eq_ok_iff.mp h).exists_of_mem_made hmem

theorem first_of_traverseEntries {entries : List (String × α)}
    (sorted : (entries.map Prod.fst).Pairwise (· < ·)) {e : ε}
    (h : traverseEntries f entries = .error e) :
    ∃ key given, (key, given) ∈ entries ∧ f key given = .error e ∧
      ∀ entry ∈ entries, entry.1 < key → ∃ made, f entry.1 entry.2 = .ok made := by
  induction entries with
  | nil => cases h
  | cons entry rest ih =>
    obtain ⟨k, given⟩ := entry
    rw [List.map_cons, List.pairwise_cons] at sorted
    rw [traverseEntries] at h
    split at h
    · next e' failed =>
      cases h
      refine ⟨k, given, List.mem_cons_self, failed, ?_⟩
      -- The first entry has the least name.
      intro entry hentry earlier
      rcases List.mem_cons.mp hentry with rfl | hentry
      · exact absurd earlier (String.lt_irrefl k)
      · have later := sorted.1 _ (List.mem_map_of_mem hentry)
        exact absurd (String.lt_trans earlier later) (String.lt_irrefl _)
    · next made hmade =>
      split at h
      · next e' hrest =>
        cases h
        obtain ⟨key, value, hmem, failed, before⟩ := ih sorted.2 hrest
        refine ⟨key, value, List.mem_cons_of_mem _ hmem, failed, ?_⟩
        intro entry hentry earlier
        rcases List.mem_cons.mp hentry with rfl | hentry
        · exact ⟨made, hmade⟩
        · exact before entry hentry earlier
      · cases h

/-- The entry that a dictionary fails with is the first in the order of names that fails. -/
theorem first_of_traverse {d : Dictionary α} {e : ε} (h : d.traverse f = .error e) :
    ∃ key given, d.get? key = some given ∧ f key given = .error e ∧
      ∀ key' < key, ∀ given', d.get? key' = some given' → ∃ made, f key' given' = .ok made := by
  rw [traverse] at h
  split at h
  · next e' hentries =>
    cases h
    obtain ⟨key, given, hmem, failed, before⟩ := first_of_traverseEntries d.sorted hentries
    refine ⟨key, given, get?_eq_some_iff.mpr hmem, failed, ?_⟩
    intro key' earlier given' hgiven
    exact before (key', given') (get?_eq_some_iff.mp hgiven) earlier
  · cases h

end GraphTypes.Dictionary
