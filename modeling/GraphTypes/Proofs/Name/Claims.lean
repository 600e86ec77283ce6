import GraphTypes.Proofs.Name.Registry

/-!
# Several claims

`Claims r names r'` says that `names` were handed out one after the other, which led from `r` to
`r'`: they differ from each other and from all that was in use before, and nothing else has come
into use. Claims that follow each other add up (`Claims.append`), so what is known of a single claim
is known of all the names that an output claims.

What a claim hands out depends on the names in use that have the same stem as its base, and on no
others. Claims of bases with different stems therefore do not affect each other
(`claimAll_eq_map`): leaving one out changes none of the others.
-/

namespace GraphTypes.Name.Registry

/-! ### What several claims hand out -/

/-- The names were claimed one after the other, and led from `r` to `r'`. -/
structure Claims (r : Registry) (names : List String) (r' : Registry) : Prop where
  nodup : names.Nodup
  fresh : ∀ name ∈ names, name ∉ r.taken
  mem_taken : ∀ {name}, name ∈ r'.taken ↔ name ∈ names ∨ name ∈ r.taken

namespace Claims

variable {r r' r'' : Registry} {names others : List String}

theorem nil (r : Registry) : Claims r [] r where
  nodup := .nil
  fresh name hname := absurd hname List.not_mem_nil
  mem_taken := by simp

theorem claim (r : Registry) (base : String) : Claims r [r.available base] (r.claim base).2 where
  nodup := List.pairwise_singleton _ _
  fresh name hname := by
    rw [List.mem_singleton.mp hname]
    exact r.available_not_mem base
  mem_taken := by
    intro name
    rw [mem_taken_claim, List.mem_singleton]

theorem append (h : Claims r names r') (h' : Claims r' others r'') :
    Claims r (names ++ others) r'' where
  nodup := by
    rw [List.nodup_append]
    refine ⟨h.nodup, h'.nodup, ?_⟩
    rintro name hname _ hother rfl
    exact h'.fresh name hother (h.mem_taken.mpr (Or.inl hname))
  fresh name hname := by
    rcases List.mem_append.mp hname with hname | hother
    · exact h.fresh name hname
    · intro before
      exact h'.fresh name hother (h.mem_taken.mpr (Or.inr before))
  mem_taken := by
    intro name
    rw [h'.mem_taken, h.mem_taken, List.mem_append, ← or_assoc, or_comm (a := name ∈ others)]

theorem cons {base : String} (h : Claims (r.claim base).2 names r') :
    Claims r (r.available base :: names) r' :=
  (claim r base).append h

theorem subset_taken (h : Claims r names r') : names ⊆ r'.taken := by
  intro name hname
  exact h.mem_taken.mpr (Or.inl hname)

end Claims

theorem claimAll_cons (r : Registry) (base : String) (bases : List String) :
    r.claimAll (base :: bases) =
      (r.available base :: ((r.claim base).2.claimAll bases).1,
        ((r.claim base).2.claimAll bases).2) := rfl

theorem claimAll_append (r : Registry) (bases others : List String) :
    r.claimAll (bases ++ others) =
      ((r.claimAll bases).1 ++ ((r.claimAll bases).2.claimAll others).1,
        ((r.claimAll bases).2.claimAll others).2) := by
  induction bases generalizing r with
  | nil => rfl
  | cons base rest ih => rw [List.cons_append, claimAll_cons, claimAll_cons, ih]; rfl

theorem claims_claimAll (r : Registry) (bases : List String) :
    Claims r (r.claimAll bases).1 (r.claimAll bases).2 := by
  induction bases generalizing r with
  | nil => exact .nil r
  | cons base rest ih => exact .cons (ih _)

/-! ### Claims that do not affect each other -/

/-- The number that is handed out is the least one that makes the name free. -/
theorem freeSuffix_le {taken : List String} {base : String} {k j : Nat} (hk : k ≤ j)
    (free : numbered base j ∉ taken) : freeSuffix taken base k ≤ j := by
  fun_induction freeSuffix taken base k with
  | case1 taken k used ih =>
    have differs : k ≠ j := by
      rintro rfl
      exact free used
    have above : k + 1 ≤ j := by omega
    exact ih above fun hmem => free (List.mem_of_mem_erase hmem)
  | case2 => exact hk

theorem freeSuffix_congr {taken taken' : List String} {base : String} (k : Nat)
    (same : ∀ j, numbered base j ∈ taken ↔ numbered base j ∈ taken') :
    freeSuffix taken base k = freeSuffix taken' base k := by
  apply Nat.le_antisymm
  · apply freeSuffix_le (le_freeSuffix taken' base k)
    rw [same]
    exact freeSuffix_not_mem taken' base k
  · apply freeSuffix_le (le_freeSuffix taken base k)
    rw [← same]
    exact freeSuffix_not_mem taken base k

theorem stem_numbered (base : String) (k : Nat) : stem (numbered base k) = stem base :=
  stem_append_digits base fun _ => isDigit_of_mem_toString

theorem prefix_available (r : Registry) (base : String) :
    base.toList <+: (r.available base).toList := by
  rw [available]
  split
  · rw [numbered, String.toList_append]
    exact List.prefix_append _ _
  · exact List.prefix_rfl

/-- Only the names in use that have the stem of a base matter to a claim of it. -/
theorem available_congr {r r' : Registry} {base : String}
    (same : ∀ name, stem name = stem base → (name ∈ r.taken ↔ name ∈ r'.taken)) :
    r.available base = r'.available base := by
  have suffix : freeSuffix r.taken base 2 = freeSuffix r'.taken base 2 :=
    freeSuffix_congr 2 fun j => same (numbered base j) (stem_numbered base j)
  have used : r.contains base = r'.contains base := by
    rw [Bool.eq_iff_iff, contains_iff, contains_iff]
    exact same base rfl
  rw [available, available, used, suffix]

theorem available_claim_of_stem_ne {r : Registry} {base other : String}
    (differs : stem other ≠ stem base) : (r.claim other).2.available base = r.available base := by
  apply available_congr
  intro name hname
  have apart : name ≠ r.available other := by
    rintro rfl
    exact differs (by rw [← hname, stem_available])
  rw [mem_taken_claim]
  simp [apart]

theorem available_claimAll_of_stem_ne {r : Registry} {base : String} {others : List String}
    (differ : ∀ other ∈ others, stem other ≠ stem base) :
    (r.claimAll others).2.available base = r.available base := by
  induction others generalizing r with
  | nil => rfl
  | cons other rest ih =>
    have front := differ other List.mem_cons_self
    exact (ih fun o ho => differ o (List.mem_cons_of_mem _ ho)).trans
      (available_claim_of_stem_ne front)

/-- Bases with different stems get what each would get alone. -/
theorem claimAll_eq_map {r : Registry} {bases : List String}
    (differ : bases.Pairwise fun a b => stem a ≠ stem b) :
    (r.claimAll bases).1 = bases.map r.available := by
  induction bases generalizing r with
  | nil => rfl
  | cons base rest ih =>
    rw [List.pairwise_cons] at differ
    have others : rest.map (r.claim base).2.available = rest.map r.available :=
      List.map_congr_left fun b hb => available_claim_of_stem_ne (differ.1 b hb)
    show r.available base :: ((r.claim base).2.claimAll rest).1 = _
    rw [ih differ.2, others, List.map_cons]

end GraphTypes.Name.Registry
