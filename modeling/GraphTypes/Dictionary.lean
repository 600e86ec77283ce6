/-!
# Dictionaries

Finite maps from names to values, kept in the order of the names (by code points). The order is
shown: imports are listed by it, and of several faulty entries of a configuration the first is
reported.
-/

namespace GraphTypes

/-- A finite map from names, listed in their order. -/
structure Dictionary (α : Type) where
  entries : List (String × α)
  sorted : (entries.map Prod.fst).Pairwise (· < ·)
  deriving Repr

namespace Dictionary

variable {α β ε : Type}

/-- No entries. -/
def empty : Dictionary α := ⟨[], .nil⟩

/-- The value under a name. -/
def get? (d : Dictionary α) (key : String) : Option α := d.entries.lookup key

/-- Whether there is a value under a name. -/
def contains (d : Dictionary α) (key : String) : Bool := (d.get? key).isSome

/-- The names, in order. -/
def keys (d : Dictionary α) : List String := d.entries.map Prod.fst

/-! ### Adding an entry -/

/-- Puts an entry in its place among sorted entries; one with the same name goes. -/
def insertEntry (key : String) (value : α) : List (String × α) → List (String × α)
  | [] => [(key, value)]
  | (k, v) :: rest =>
    if key < k then (key, value) :: (k, v) :: rest
    else if key = k then (key, value) :: rest
    else (k, v) :: insertEntry key value rest

theorem mem_keys_insertEntry {key k : String} {value : α} {entries : List (String × α)}
    (h : k ∈ (insertEntry key value entries).map Prod.fst) :
    k = key ∨ k ∈ entries.map Prod.fst := by
  fun_induction insertEntry key value entries with
  | case1 => simpa using h
  | case2 k' v rest _ => simpa using h
  | case3 v rest _ => exact Or.inr (by simpa using h)
  | case4 k' v rest _ _ ih =>
    rw [List.map_cons, List.mem_cons] at h ⊢
    rcases h with rfl | h
    · exact Or.inr (Or.inl rfl)
    · exact (ih h).imp_right Or.inr

theorem sorted_insertEntry (key : String) (value : α) {entries : List (String × α)}
    (h : (entries.map Prod.fst).Pairwise (· < ·)) :
    ((insertEntry key value entries).map Prod.fst).Pairwise (· < ·) := by
  fun_induction insertEntry key value entries with
  | case1 => simp
  | case2 k v rest hlt =>
    simp only [List.map_cons, List.pairwise_cons] at h ⊢
    refine ⟨fun a ha => ?_, h⟩
    rcases List.mem_cons.mp ha with rfl | ha
    · exact hlt
    · exact String.lt_trans hlt (h.1 a ha)
  | case3 v rest _ => simpa using h
  | case4 k v rest hlt hne ih =>
    simp only [List.map_cons, List.pairwise_cons] at h ⊢
    refine ⟨fun a ha => ?_, ih h.2⟩
    rcases mem_keys_insertEntry ha with rfl | ha
    · grind
    · exact h.1 a ha

/-- The dictionary with a further entry. An earlier entry of the same name is replaced. -/
def insert (d : Dictionary α) (key : String) (value : α) : Dictionary α :=
  ⟨insertEntry key value d.entries, sorted_insertEntry key value d.sorted⟩

theorem lookup_cons_if (key k : String) (value : α) (rest : List (String × α)) :
    ((key, value) :: rest).lookup k = if k = key then some value else rest.lookup k := by
  rw [List.lookup_cons]
  by_cases h : k = key
  · simp [h]
  · rw [beq_false_of_ne h, if_neg h]

theorem lookup_insertEntry (key k : String) (value : α) (entries : List (String × α)) :
    (insertEntry key value entries).lookup k =
      if k = key then some value else entries.lookup k := by
  fun_induction insertEntry key value entries with
  | case1 => exact lookup_cons_if key k value []
  | case2 k' v rest _ => exact lookup_cons_if key k value ((k', v) :: rest)
  | case3 v rest _ => grind [lookup_cons_if]
  | case4 k' v rest _ hne ih => grind [lookup_cons_if]

@[simp] theorem get?_empty (k : String) : (empty : Dictionary α).get? k = none := rfl

@[simp] theorem get?_insert (d : Dictionary α) (key k : String) (value : α) :
    (d.insert key value).get? k = if k = key then some value else d.get? k :=
  lookup_insertEntry key k value d.entries

@[simp] theorem contains_insert (d : Dictionary α) (key k : String) (value : α) :
    (d.insert key value).contains k = (k == key || d.contains k) := by
  by_cases h : k = key <;> simp [contains, h]

/-- The dictionary with several further entries, of which the last of a name counts. -/
def insertAll (d : Dictionary α) (entries : List (String × α)) : Dictionary α :=
  entries.foldl (fun d (key, value) => d.insert key value) d

/-! ### Checking every entry -/

/-- Replaces the value of every entry, in order, until one cannot be replaced. -/
def traverseEntries (f : String → α → Except ε β) :
    (entries : List (String × α)) →
      Except ε { out : List (String × β) // out.map Prod.fst = entries.map Prod.fst }
  | [] => .ok ⟨[], rfl⟩
  | (key, value) :: rest =>
    match f key value with
    | .error e => .error e
    | .ok value =>
      match traverseEntries f rest with
      | .error e => .error e
      | .ok ⟨out, h⟩ => .ok ⟨(key, value) :: out, by simp [h]⟩

/-- Replaces every value by what `f` makes of it; fails with the first failure in order. -/
def traverse (d : Dictionary α) (f : String → α → Except ε β) : Except ε (Dictionary β) :=
  match traverseEntries f d.entries with
  | .error e => .error e
  | .ok ⟨out, h⟩ => .ok ⟨out, h ▸ d.sorted⟩

end Dictionary

end GraphTypes
