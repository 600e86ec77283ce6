import Mathlib.Order.Bounds.Basic
import GraphTypes.Introspection.Closure
import GraphTypes.Introspection.Meta

/-!
# The introspection closure is exact

`neededTypes` finds the least set of names that contains every used type and, for each object in it,
the declared types that its fields name. The introspection schema may be any schema, with cycles or
without; the walk ends because of the measure that `explore` is defined with.

Three facts about `explore` carry the result. What has been found and what is left to do stay inside
every closed set that they start in (`explore_subset`). What a name leads to has been found or is
still to do, so that nothing is missing when nothing is left (`Expanded`). The list and the set of a
discovery hold the same names, each once (`Discovery.Coherent`).
-/

namespace GraphTypes.Introspection

open Sdl

/-- A set of names that holds the used types, and with an object all declared types that the fields
of the object name. -/
structure Closed (reflect : Schema) (used : List String) (names : Set String) : Prop where
  used_mem : ∀ name ∈ used, name ∈ names
  field_mem : ∀ {name : String} {d : TypeDef} {f : Field}, name ∈ names →
    reflect.get? name = some d → d.kind = .object → f ∈ d.fields →
    reflect.contains f.type.innermost → f.type.innermost ∈ names

/-! ### Steps of the walk -/

theorem mem_successors {s : Schema} {name next : String} :
    next ∈ successors s name ↔
      ∃ d, s.get? name = some d ∧ d.kind = .object ∧
        ∃ f ∈ d.fields, s.contains next ∧ f.type.innermost = next := by
  unfold successors
  cases hd : s.get? name with
  | none => simp
  | some d =>
    by_cases hk : d.kind = .object
    · simp only [hk, ↓reduceIte, List.mem_filter, List.mem_map, Option.some.injEq]
      constructor
      · rintro ⟨⟨f, hf, rfl⟩, hc⟩
        exact ⟨d, rfl, hk, f, hf, hc, rfl⟩
      · rintro ⟨_, rfl, -, f, hf, hc, rfl⟩
        exact ⟨⟨f, hf, rfl⟩, hc⟩
    · simp only [hk, ↓reduceIte, List.not_mem_nil, Option.some.injEq, false_iff]
      rintro ⟨_, rfl, hk', -⟩
      exact hk hk'

/-- The steps of the walk stay inside a closed set. -/
theorem Closed.successors_mem {reflect : Schema} {used : List String} {names : Set String}
    (h : Closed reflect used names) {name next : String} (hname : name ∈ names)
    (hnext : next ∈ successors reflect name) : next ∈ names := by
  obtain ⟨d, hd, hk, f, hf, hc, rfl⟩ := mem_successors.mp hnext
  exact h.field_mem hname hd hk hf hc

/-! ### The list and the set of a discovery -/

/-- The list holds the names of the set, each once. -/
structure Discovery.Coherent (f : Discovery) : Prop where
  nodup : f.ordered.Nodup
  mem_iff : ∀ name, name ∈ f.ordered ↔ f.contains name

namespace Discovery

theorem coherent_empty : Coherent {} where
  nodup := List.nodup_nil
  mem_iff _ := by simp [contains, Dictionary.contains]

theorem Coherent.insert {f : Discovery} (h : f.Coherent) (name : String) :
    (f.insert name).Coherent := by
  by_cases hname : f.contains name
  · rw [Discovery.insert, if_pos hname]
    exact h
  · have ordered : (f.insert name).ordered = f.ordered ++ [name] := by
      rw [Discovery.insert, if_neg hname]
    constructor
    · rw [ordered, List.nodup_append]
      refine ⟨h.nodup, by simp, ?_⟩
      intro a ha b hb hab
      rw [List.mem_singleton] at hb
      subst hb hab
      exact hname ((h.mem_iff a).mp ha)
    · intro k
      rw [ordered, List.mem_append, List.mem_singleton, h.mem_iff, contains_insert]
      simp [or_comm]

theorem ordered_prefix_insert (f : Discovery) (name : String) :
    f.ordered <+: (f.insert name).ordered := by
  rw [insert]
  split
  · exact List.prefix_rfl
  · exact List.prefix_append f.ordered [name]

end Discovery

/-! ### Whole walks -/

theorem Discovery.Coherent.explore {s : Schema} {todo : List String} {found : Discovery}
    (h : found.Coherent) : (explore s todo found).Coherent := by
  -- A step either passes over a name or inserts it.
  fun_induction Introspection.explore s todo found with
  | case1 => exact h
  | case2 found name rest _ ih => exact ih h
  | case3 found name rest _ ih => exact ih (h.insert name)

theorem ordered_prefix_explore (s : Schema) (todo : List String) (found : Discovery) :
    found.ordered <+: (explore s todo found).ordered := by
  fun_induction explore s todo found with
  | case1 => exact List.prefix_rfl
  | case2 found name rest _ ih => exact ih
  | case3 found name rest _ ih => exact (found.ordered_prefix_insert name).trans ih

/-- The walk never leaves a set that is closed under its steps. -/
theorem explore_subset {s : Schema} {names : Set String}
    (closed : ∀ name ∈ names, ∀ next ∈ successors s name, next ∈ names)
    {todo : List String} {found : Discovery} (htodo : ∀ name ∈ todo, name ∈ names)
    (hfound : ∀ name, found.contains name → name ∈ names) :
    ∀ name, (explore s todo found).contains name → name ∈ names := by
  fun_induction explore s todo found with
  | case1 => exact hfound
  | case2 found name rest _ ih =>
    exact ih (fun k hk => htodo k (List.mem_cons_of_mem _ hk)) hfound
  | case3 found name rest _ ih =>
    -- The name was to do, so it is in the set, and with it all that it leads to.
    have hname : name ∈ names := htodo name List.mem_cons_self
    apply ih
    · intro k hk
      rcases List.mem_append.mp hk with hk | hk
      · exact closed name hname k hk
      · exact htodo k (List.mem_cons_of_mem _ hk)
    · intro k hk
      rw [Discovery.contains_insert, Bool.or_eq_true, beq_iff_eq] at hk
      rcases hk with rfl | hk
      · exact hname
      · exact hfound k hk

section Steps

variable {s : Schema} {found : Discovery} {first name : String} {rest : List String}

/-- To skip a name that was found before loses nothing that was found or is to do. -/
theorem kept_of_seen (seen : found.contains first)
    (h : found.contains name ∨ name ∈ first :: rest) : found.contains name ∨ name ∈ rest := by
  rcases h with h | h
  · exact Or.inl h
  · rcases List.mem_cons.mp h with rfl | h
    · exact Or.inl seen
    · exact Or.inr h

/-- Nor does it to take in a new name and put in front what that leads to. -/
theorem kept_of_insert (h : found.contains name ∨ name ∈ first :: rest) :
    (found.insert first).contains name ∨ name ∈ successors s first ++ rest := by
  rw [Discovery.contains_insert, Bool.or_eq_true, beq_iff_eq, List.mem_append]
  rcases h with h | h
  · exact Or.inl (Or.inr h)
  · rcases List.mem_cons.mp h with rfl | h
    · exact Or.inl (Or.inl rfl)
    · exact Or.inr (Or.inr h)

end Steps

/-- Nothing that was found or was to do is lost. -/
theorem explore_contains {s : Schema} {todo : List String} {found : Discovery} {name : String}
    (h : found.contains name ∨ name ∈ todo) : (explore s todo found).contains name := by
  fun_induction explore s todo found with
  | case1 => simpa using h
  | case2 found first rest seen ih => exact ih (kept_of_seen seen h)
  | case3 found first rest _ ih => exact ih (kept_of_insert h)

/-- What a name found so far leads to has been found too, or is still to do. -/
def Expanded (s : Schema) (todo : List String) (found : Discovery) : Prop :=
  ∀ name, found.contains name → ∀ next ∈ successors s name, found.contains next ∨ next ∈ todo

theorem Expanded.skip {s : Schema} {found : Discovery} {name : String} {rest : List String}
    (h : Expanded s (name :: rest) found) (seen : found.contains name) :
    Expanded s rest found :=
  fun k hk next hnext => kept_of_seen seen (h k hk next hnext)

theorem Expanded.insert {s : Schema} {found : Discovery} {name : String} {rest : List String}
    (h : Expanded s (name :: rest) found) :
    Expanded s (successors s name ++ rest) (found.insert name) := by
  intro k hk next hnext
  rw [Discovery.contains_insert, Bool.or_eq_true, beq_iff_eq] at hk
  rcases hk with rfl | hk
  · -- What the new name leads to has just been put in front.
    exact Or.inr (List.mem_append_left _ hnext)
  · exact kept_of_insert (h k hk next hnext)

/-- When the walk is over, nothing that was found leads further. -/
theorem explore_closed {s : Schema} {todo : List String} {found : Discovery}
    (h : Expanded s todo found) :
    ∀ name, (explore s todo found).contains name →
      ∀ next ∈ successors s name, (explore s todo found).contains next := by
  -- `Expanded` is what every step keeps; in the end nothing is to do, and it is the claim.
  fun_induction explore s todo found with
  | case1 found =>
    intro name hname next hnext
    simpa using h name hname next hnext
  | case2 found name rest seen ih => exact ih (h.skip seen)
  | case3 found name rest _ ih => exact ih h.insert

/-- A walk from the start finds the least closed set. -/
theorem isLeast_explore (reflect : Schema) (used : List String) :
    IsLeast {names : Set String | Closed reflect used names}
      {name | (explore reflect used {}).contains name} := by
  have nothing : ∀ name, ¬ (({} : Discovery).contains name) := fun name => by
    simp [Discovery.contains, Dictionary.contains]
  constructor
  · constructor
    · intro name hname
      exact explore_contains (Or.inr hname)
    · intro name d f hname hd hk hf hc
      have start : Expanded reflect used {} := fun k hk => absurd hk (nothing k)
      exact explore_closed start name hname _ (mem_successors.mpr ⟨d, hd, hk, f, hf, hc, rfl⟩)
  · intro names closed name hname
    exact explore_subset (fun _ hk _ hnext => closed.successors_mem hk hnext) closed.used_mem
      (fun k hk => absurd hk (nothing k)) name hname

theorem head?_explore (reflect : Schema) (used : List String) :
    (explore reflect used {}).ordered.head? = used.head? := by
  cases used with
  | nil => rw [explore]
  | cons name rest =>
    have start : explore reflect (name :: rest) {} =
        explore reflect (successors reflect name ++ rest) (({} : Discovery).insert name) := by
      rw [explore, if_neg (by simp [Discovery.contains, Dictionary.contains])]
    -- The first name is entered first, and whatever is entered later comes behind it.
    obtain ⟨later, h⟩ := ordered_prefix_explore reflect (successors reflect name ++ rest)
      (({} : Discovery).insert name)
    rw [start, ← h]
    rfl

/-! ### The needed types -/

/-- The needed types are exactly the least set that holds the used types and what the objects in it
name. Their list is in the order of discovery: it begins with the first used type, is empty when
nothing is used, and has the names of the set, each once. -/
theorem neededTypes_isLeast {s reflect : Schema} {documents : List Operation.Document}
    {used : List String} (h : usedTypes s reflect documents = .ok used) :
    ∃ needed, neededTypes s reflect documents = .ok needed ∧
      IsLeast {names : Set String | Closed reflect used names} {name | needed.contains name} ∧
      needed.ordered.Nodup ∧ (∀ name, name ∈ needed.ordered ↔ needed.visited.contains name) ∧
      (∀ first, used.head? = some first → needed.ordered.head? = some first) ∧
      (used = [] → needed.ordered = []) := by
  have coherent : (explore reflect used {}).Coherent := Discovery.coherent_empty.explore
  have head := head?_explore reflect used
  refine ⟨explore reflect used {}, by rw [neededTypes, h]; rfl, isLeast_explore reflect used,
    coherent.nodup, coherent.mem_iff, ?_, ?_⟩
  · intro first hfirst
    rw [head, hfirst]
  · rintro rfl
    exact List.head?_eq_none_iff.mp head

/-- A service with one field to ask for. -/
def greeter : Schema where
  types := [{ description := none, name := "Query"
              shape := .object [] [plainField "greeting" (.named "String")] }]
  roots := { query := some "Query" }
  faultless := by decide +kernel

/-- The introspection schema has cycles: a type has fields, and a field has a type. -/
theorem neededTypes_isLeast_of_type_kind :
    usedTypes greeter metaSchema [[.operation .query [.field "__type" [.field "kind" []]]]] =
        .ok ["__Type", "__TypeKind"] ∧
      ∃ needed,
        neededTypes greeter metaSchema
            [[.operation .query [.field "__type" [.field "kind" []]]]] = .ok needed ∧
          IsLeast {names : Set String | Closed metaSchema ["__Type", "__TypeKind"] names}
            {name | needed.contains name} ∧
          needed.ordered.Nodup ∧
          (∀ name, name ∈ needed.ordered ↔ needed.visited.contains name) ∧
          (∀ first, ["__Type", "__TypeKind"].head? = some first →
            needed.ordered.head? = some first) ∧
          (["__Type", "__TypeKind"] = [] → needed.ordered = []) := by
  have used : usedTypes greeter metaSchema
      [[.operation .query [.field "__type" [.field "kind" []]]]] =
        .ok ["__Type", "__TypeKind"] := by decide +kernel
  exact ⟨used, neededTypes_isLeast used⟩

end GraphTypes.Introspection
