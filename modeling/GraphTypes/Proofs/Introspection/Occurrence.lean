import GraphTypes.Introspection.Usage

/-!
# Names in the order of their positions

A position in nested lists is the list of the places that lead to it, from the outside in. Positions
are ordered as lists of numbers, so they follow each other as in a text: what is inside something
comes behind it and before its neighbour.

`Lists` says that names are those that occur anywhere, in the order of the positions. Without its
repetitions such a list is in the order of first occurrence (`pairwise_eraseDups`). `Exact` says the
same of a scan that can fail: it reports a fault that is there, or there is none and it lists all
that occurs.
-/

namespace GraphTypes.Introspection

/-! ### Positions -/

/-- The same position in a list with one entry more in front. -/
def later : List Nat → List Nat
  | [] => []
  | i :: position => (i + 1) :: position

theorem later_lt_later {p q : List Nat} (h : p < q) : later p < later q := by
  cases p with
  | nil =>
    cases q with
    | nil => exact absurd h (List.not_lt_nil [])
    | cons j q => exact List.nil_lt_cons (j + 1) q
  | cons i p =>
    cases q with
    | nil => exact absurd h (List.not_lt_nil _)
    | cons j q =>
      rw [List.cons_lt_cons_iff] at h
      rw [later, later, List.cons_lt_cons_iff]
      rcases h with h | ⟨rfl, h⟩
      · exact Or.inl (Nat.succ_lt_succ h)
      · exact Or.inr ⟨rfl, h⟩

theorem cons_lt_later {p q : List Nat} (h : q ≠ []) : 0 :: p < later q := by
  obtain ⟨i, q, rfl⟩ := List.exists_cons_of_ne_nil h
  exact List.cons_lt_cons_iff.mpr (Or.inl (Nat.succ_pos i))

theorem cons_lt_cons_self {i : Nat} {p q : List Nat} (h : p < q) : i :: p < i :: q :=
  List.cons_lt_cons_iff.mpr (Or.inr ⟨rfl, h⟩)

theorem singleton_lt_cons {i : Nat} {q : List Nat} (h : q ≠ []) : [i] < i :: q := by
  obtain ⟨j, q, rfl⟩ := List.exists_cons_of_ne_nil h
  exact cons_lt_cons_self (List.nil_lt_cons j q)

/-! ### Lists in the order of positions -/

/-- The names that occur anywhere, as often as they occur, in the order of the positions. -/
def Lists (occurs : List Nat → String → Prop) (names : List String) : Prop :=
  ∃ entries : List (List Nat × String), entries.map Prod.snd = names ∧
    entries.Pairwise (·.1 < ·.1) ∧
      ∀ position name, (position, name) ∈ entries ↔ occurs position name

theorem Lists.nil {occurs : List Nat → String → Prop} (nowhere : ∀ p n, ¬ occurs p n) :
    Lists occurs [] := by
  refine ⟨[], rfl, .nil, ?_⟩
  intro position name
  simp [nowhere position name]

theorem Lists.append {front back : List Nat → String → Prop} {names others : List String}
    (hfront : Lists front names) (hback : Lists back others)
    (ordered : ∀ p q n m, front p n → back q m → p < q) :
    Lists (fun p n => front p n ∨ back p n) (names ++ others) := by
  obtain ⟨before, rfl, sorted, hbefore⟩ := hfront
  obtain ⟨after, rfl, sorted', hafter⟩ := hback
  refine ⟨before ++ after, List.map_append, ?_, ?_⟩
  · rw [List.pairwise_append]
    refine ⟨sorted, sorted', ?_⟩
    rintro ⟨p, n⟩ hp ⟨q, m⟩ hq
    exact ordered p q n m ((hbefore p n).mp hp) ((hafter q m).mp hq)
  · intro position name
    rw [List.mem_append, hbefore, hafter]

/-- All positions can be moved as long as their order stays. -/
theorem Lists.move {occurs : List Nat → String → Prop} {names : List String}
    (h : Lists occurs names) (shift : List Nat → List Nat)
    (ordered : ∀ {p q}, p < q → shift p < shift q) :
    Lists (fun p n => ∃ q, p = shift q ∧ occurs q n) names := by
  obtain ⟨entries, rfl, sorted, hentries⟩ := h
  refine ⟨entries.map fun entry => (shift entry.1, entry.2), ?_, ?_, ?_⟩
  · rw [List.map_map]
    rfl
  · rw [List.pairwise_map]
    exact sorted.imp ordered
  · intro position name
    simp only [List.mem_map, Prod.exists, Prod.mk.injEq, ← hentries]
    constructor
    · rintro ⟨q, n, hmem, rfl, rfl⟩
      exact ⟨q, rfl, hmem⟩
    · rintro ⟨q, rfl, hmem⟩
      exact ⟨q, name, hmem, rfl, rfl⟩

theorem Lists.mem_iff {occurs : List Nat → String → Prop} {names : List String}
    (h : Lists occurs names) {name : String} : name ∈ names ↔ ∃ position, occurs position name := by
  obtain ⟨entries, rfl, -, hentries⟩ := h
  simp [← hentries]

/-- Where the list of entries is in order, its names without repetitions stand in the order in which
they first occur. -/
theorem pairwise_eraseDups {entries : List (List Nat × String)}
    (sorted : entries.Pairwise (·.1 < ·.1)) :
    (entries.map Prod.snd).eraseDups.Pairwise fun a b =>
      ∃ p, (p, a) ∈ entries ∧ ∀ q, (q, b) ∈ entries → p < q := by
  -- Taking repetitions off leaves a shorter list behind the first name.
  induction hn : entries.length using Nat.strongRecOn generalizing entries with
  | _ n ih =>
    subst hn
    cases entries with
    | nil => exact .nil
    | cons first rest =>
      obtain ⟨p, a⟩ := first
      rw [List.pairwise_cons] at sorted
      have others : (rest.map Prod.snd).filter (!· == a) =
          (rest.filter (!·.2 == a)).map Prod.snd := by
        rw [List.filter_map]
        rfl
      have shorter : (rest.filter (!·.2 == a)).length < ((p, a) :: rest).length :=
        Nat.lt_succ_of_le (List.length_filter_le _ rest)
      have ordered := ih _ shorter (sorted.2.sublist List.filter_sublist) rfl
      have differs : ∀ b ∈ ((rest.filter (!·.2 == a)).map Prod.snd).eraseDups, b ≠ a := by
        intro b hb
        rw [List.mem_eraseDups, ← others, List.mem_filter] at hb
        simpa using hb.2
      rw [List.map_cons, List.eraseDups_cons, others, List.pairwise_cons]
      constructor
      · -- Any other name occurs behind the first entry only.
        intro b hb
        refine ⟨p, List.mem_cons_self, ?_⟩
        intro q hq
        rcases List.mem_cons.mp hq with heq | hq
        · exact absurd (Prod.mk.inj heq).2 (differs b hb)
        · exact sorted.1 (q, b) hq
      · refine ordered.imp_of_mem ?_
        rintro b c - hc ⟨p', hp', before⟩
        refine ⟨p', List.mem_cons_of_mem _ (List.mem_filter.mp hp').1, ?_⟩
        intro q hq
        rcases List.mem_cons.mp hq with heq | hq
        · exact absurd (Prod.mk.inj heq).2 (differs c hc)
        · exact before q (List.mem_filter.mpr ⟨hq, by simpa using differs c hc⟩)

theorem Lists.pairwise_eraseDups {occurs : List Nat → String → Prop} {names : List String}
    (h : Lists occurs names) :
    names.eraseDups.Pairwise fun a b => ∃ p, occurs p a ∧ ∀ q, occurs q b → p < q := by
  obtain ⟨entries, rfl, sorted, hentries⟩ := h
  simp only [← hentries]
  exact Introspection.pairwise_eraseDups sorted

theorem Lists.nodup_eraseDups {occurs : List Nat → String → Prop} {names : List String}
    (h : Lists occurs names) : names.eraseDups.Nodup := by
  apply h.pairwise_eraseDups.imp
  rintro a _ ⟨p, hp, before⟩ rfl
  exact List.lt_irrefl p (before p hp)

/-! ### Exact results -/

/-- A scan is exact: it reports one of the faults, or there are none and it lists all that
occurs. -/
def Exact (fault : SchemaError → Prop) (occurs : List Nat → String → Prop) :
    Except SchemaError (List String) → Prop
  | .error e => fault e
  | .ok names => (∀ e, ¬ fault e) ∧ Lists occurs names

namespace Exact

variable {fault fault' : SchemaError → Prop} {occurs occurs' : List Nat → String → Prop}
  {result first second : Except SchemaError (List String)}

theorem congr (h : Exact fault occurs result) (faults : ∀ e, fault e ↔ fault' e)
    (occurrences : ∀ p n, occurs p n ↔ occurs' p n) : Exact fault' occurs' result := by
  have hfault : fault = fault' := funext fun e => propext (faults e)
  have hoccurs : occurs = occurs' := funext fun p => funext fun n => propext (occurrences p n)
  rw [← hfault, ← hoccurs]
  exact h

theorem nil (faultless : ∀ e, ¬ fault e) (nowhere : ∀ p n, ¬ occurs p n) :
    Exact fault occurs (.ok []) :=
  ⟨faultless, .nil nowhere⟩

/-- Two scans one after the other, of which the second comes to later positions. -/
theorem append (h : Exact fault occurs first) (h' : Exact fault' occurs' second)
    (ordered : ∀ p q n m, occurs p n → occurs' q m → p < q) :
    Exact (fun e => fault e ∨ fault' e) (fun p n => occurs p n ∨ occurs' p n)
      (do return (← first) ++ (← second)) := by
  cases first with
  | error e => exact Or.inl h
  | ok names =>
    cases second with
    | error e => exact Or.inr h'
    | ok others =>
      refine ⟨?_, h.2.append h'.2 ordered⟩
      rintro e (he | he)
      · exact h.1 e he
      · exact h'.1 e he

theorem move (h : Exact fault occurs result) (shift : List Nat → List Nat)
    (ordered : ∀ {p q}, p < q → shift p < shift q) :
    Exact fault (fun p n => ∃ q, p = shift q ∧ occurs q n) result := by
  cases result with
  | error e => exact h
  | ok names => exact ⟨h.1, h.2.move shift ordered⟩

end Exact

end GraphTypes.Introspection
