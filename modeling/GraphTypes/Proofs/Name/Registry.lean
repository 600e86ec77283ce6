import GraphTypes.Name.Registry

/-!
# Claimed names are free

What a claim hands out was not in use before, and is in use afterwards. The name is the base itself
or the base with a number behind it, so it ends as the base does once trailing digits are taken off
(`stem`); two names whose stems differ can never meet, whatever numbers they were given.
-/

namespace GraphTypes.Name.Registry

/-! ### Numbered names -/

theorem numbered_inj {base : String} {j k : Nat} (h : numbered base j = numbered base k) :
    j = k := by
  have digits : Nat.toDigits 10 j = Nat.toDigits 10 k := by
    have chars := congrArg String.toList h
    simpa [numbered] using chars
  simpa using congrArg (fun ds => Nat.ofDigitChars 10 ds 0) digits

theorem isDigit_of_mem_toString {k : Nat} {c : Char} (h : c ∈ (toString k).toList) : c.isDigit := by
  have numeral : toString k = String.ofList (Nat.toDigits 10 k) := rfl
  rw [numeral, String.toList_ofList] at h
  exact Nat.isDigit_of_mem_toDigits (by decide) (by decide) h

theorem le_freeSuffix (taken : List String) (base : String) (k : Nat) :
    k ≤ freeSuffix taken base k := by
  fun_induction freeSuffix taken base k with
  | case1 taken k _ ih => exact Nat.le_of_succ_le ih
  | case2 => exact Nat.le_refl _

/-- The search ends at a free name. -/
theorem freeSuffix_not_mem (taken : List String) (base : String) (k : Nat) :
    numbered base (freeSuffix taken base k) ∉ taken := by
  fun_induction freeSuffix taken base k with
  | case1 taken k h ih =>
    -- The candidate that was taken off the list has a smaller number than the result.
    have later := le_freeSuffix (taken.erase (numbered base k)) base (k + 1)
    have differs : numbered base (freeSuffix (taken.erase (numbered base k)) base (k + 1)) ≠
        numbered base k := by
      intro heq
      have := numbered_inj heq
      omega
    rwa [List.mem_erase_of_ne differs] at ih
  | case2 taken k h => exact h

/-! ### Claims -/

@[simp] theorem contains_iff {r : Registry} {name : String} : r.contains name ↔ name ∈ r.taken := by
  simp [contains]

/-- A claim hands out a name that was not in use. -/
theorem available_not_mem (r : Registry) (base : String) : r.available base ∉ r.taken := by
  unfold available
  split
  · exact freeSuffix_not_mem r.taken base 2
  · next h => simpa using h

@[simp] theorem mem_taken_reserve {r : Registry} {name k : String} :
    k ∈ (r.reserve name).taken ↔ k = name ∨ k ∈ r.taken := by
  unfold reserve
  split
  · next h =>
    constructor
    · exact Or.inr
    · rintro (rfl | hk)
      · exact contains_iff.mp h
      · exact hk
  · simp [or_comm]

@[simp] theorem mem_taken_reserveAll {r : Registry} {names : List String} {k : String} :
    k ∈ (r.reserveAll names).taken ↔ k ∈ names ∨ k ∈ r.taken := by
  induction names generalizing r with
  | nil => simp [reserveAll]
  | cons name rest ih =>
    have step : r.reserveAll (name :: rest) = (r.reserve name).reserveAll rest := rfl
    rw [step, ih, mem_taken_reserve, List.mem_cons, or_left_comm, or_assoc]

/-- After a claim the name that it handed out is in use, besides those in use before. -/
@[simp] theorem mem_taken_claim {r : Registry} {base k : String} :
    k ∈ (r.claim base).2.taken ↔ k = r.available base ∨ k ∈ r.taken :=
  mem_taken_reserve

theorem length_claimAll (r : Registry) (bases : List String) :
    (r.claimAll bases).1.length = bases.length := by
  induction bases generalizing r with
  | nil => rfl
  | cons base rest ih => exact congrArg (· + 1) (ih _)

theorem taken_subset_claim (r : Registry) (base : String) : r.taken ⊆ (r.claim base).2.taken := by
  intro name hname
  exact mem_taken_claim.mpr (Or.inr hname)

theorem taken_subset_claimAll (r : Registry) (bases : List String) :
    r.taken ⊆ (r.claimAll bases).2.taken := by
  induction bases generalizing r with
  | nil => exact List.Subset.refl _
  | cons base rest ih => exact List.Subset.trans (taken_subset_claim r base) (ih _)

/-- Each of several names was handed out by a claim of its own, when all that was in use before any
of the claims was still in use. -/
theorem mem_claimAll {r : Registry} {bases : List String} {name : String}
    (h : name ∈ (r.claimAll bases).1) :
    ∃ base ∈ bases, ∃ r' : Registry, r.taken ⊆ r'.taken ∧ name = r'.available base := by
  induction bases generalizing r with
  | nil => cases h
  | cons base rest ih =>
    rcases List.mem_cons.mp h with rfl | h
    · exact ⟨base, List.mem_cons_self, r, List.Subset.refl _, rfl⟩
    · obtain ⟨b, hb, r', hsub, rfl⟩ := ih h
      exact ⟨b, List.mem_cons_of_mem _ hb, r', List.Subset.trans (taken_subset_claim r base) hsub,
        rfl⟩

/-! ### Stems -/

/-- The characters of a name from the last one on, without the digits that it ends in. -/
def stem (name : String) : List Char := name.toList.reverse.dropWhile Char.isDigit

theorem stem_append_digits (base : String) {digits : String}
    (h : ∀ c ∈ digits.toList, c.isDigit) : stem (base ++ digits) = stem base := by
  have reversed : ∀ c ∈ digits.toList.reverse, c.isDigit := by
    intro c hc
    exact h c (List.mem_reverse.mp hc)
  rw [stem, String.toList_append, List.reverse_append, List.dropWhile_append_of_pos reversed, stem]

/-- A claim does not change the stem. -/
theorem stem_available (r : Registry) (base : String) : stem (r.available base) = stem base := by
  unfold available
  split
  · exact stem_append_digits base fun c => isDigit_of_mem_toString
  · rfl

/-- A name that does not end in a digit is its own stem, backwards. -/
theorem stem_append (front : String) {back : String}
    (h : back.toList.getLast?.any (!·.isDigit)) :
    stem (front ++ back) = back.toList.reverse ++ front.toList.reverse := by
  rw [← List.head?_reverse] at h
  rw [stem, String.toList_append, List.reverse_append]
  cases hback : back.toList.reverse with
  | nil => rw [hback] at h; cases h
  | cons c rest =>
    rw [hback] at h
    have hc : c.isDigit = false := by simpa using h
    rw [List.cons_append, List.dropWhile_cons, if_neg (by simp [hc])]

/-- A name that ends in a text without a final digit has that text, backwards, in its stem. -/
theorem prefix_stem_append (front : String) {back : String}
    (h : back.toList.getLast?.any (!·.isDigit)) :
    back.toList.reverse <+: stem (front ++ back) := by
  rw [stem_append front h]
  exact List.prefix_append _ _

/-- The stem ends where the name begins, unless that is a digit. -/
theorem getLast?_stem {name : String} {c : Char} (h : name.toList.head? = some c)
    (hc : c.isDigit = false) : (stem name).getLast? = some c := by
  obtain ⟨rest, hname⟩ := List.head?_eq_some_iff.mp h
  rw [stem, hname, List.reverse_cons, List.dropWhile_append]
  split
  · rw [List.dropWhile_cons, if_neg (by simp [hc])]
    rfl
  · rw [List.getLast?_append]
    rfl

end GraphTypes.Name.Registry
