import GraphTypes.Dictionary
import GraphTypes.Introspection.Usage

/-!
# Which introspection types are needed

A used introspection type is declared as a record, whose members name further types, which have to
be declared too. `explore` walks from the used types along the fields of objects, depth first, and
lists every type on the way once, in the order in which it is found. The walk ends because each step
either shortens the list of what is left to do or finds a declared type for the first time.
-/

namespace GraphTypes.Introspection

open Sdl

/-! ### What has been found -/

/-- Names that have been found: in the order of discovery, and as a set to ask for one. -/
structure Discovery where
  ordered : List String := []
  visited : Dictionary Unit := .empty

namespace Discovery

/-- Whether a name has been found. -/
def contains (f : Discovery) (name : String) : Bool := f.visited.contains name

/-- Adds a name, unless it has been found before. -/
def insert (f : Discovery) (name : String) : Discovery :=
  if f.contains name then f
  else { ordered := f.ordered ++ [name], visited := f.visited.insert name () }

@[simp] theorem contains_insert (f : Discovery) (name k : String) :
    (f.insert name).contains k = (k == name || f.contains k) := by
  rw [insert]
  split
  · next h => by_cases hk : k = name <;> simp [hk, h]
  · exact Dictionary.contains_insert f.visited name k ()

end Discovery

/-! ### The walk -/

/-- The declared types that the fields of an object name. Types of other kinds are taken as they
are: what an interface or a union stands for is not part of it. -/
def successors (s : Schema) (name : String) : List String :=
  match s.get? name with
  | some d =>
    if d.kind = .object then (d.fields.map (·.type.innermost)).filter (s.contains ·) else []
  | none => []

/-- How many declared types have not been found yet. -/
def unseen (types : List TypeDef) (found : Discovery) : Nat :=
  types.countP (!found.contains ·.name)

theorem unseen_insert_le (types : List TypeDef) (found : Discovery) (name : String) :
    unseen types (found.insert name) ≤ unseen types found := by
  apply List.countP_mono_left
  intro d _ h
  simp_all

/-- Finding a declared type for the first time leaves fewer to be found. -/
theorem unseen_insert_lt {types : List TypeDef} {found : Discovery} {name : String}
    (declared : (Schema.lookup? types name).isSome) (fresh : ¬ found.contains name) :
    unseen types (found.insert name) < unseen types found := by
  induction types with
  | nil => simp [Schema.lookup?] at declared
  | cons d rest ih =>
    have rest_le := unseen_insert_le rest found name
    simp only [unseen, List.countP_cons] at ih rest_le ⊢
    by_cases hd : d.name = name
    · have before : (!found.contains d.name) = true := by simpa [hd] using fresh
      have after : (!(found.insert name).contains d.name) = false := by simp [hd]
      simp only [before, after, Bool.false_eq_true, ↓reduceIte]
      omega
    · have here : (!(found.insert name).contains d.name) = !found.contains d.name := by simp [hd]
      have := ih (by simpa [Schema.lookup?, hd] using declared)
      rw [here]
      omega

theorem successors_eq_nil {s : Schema} {name : String} (h : ¬ s.contains name) :
    successors s name = [] := by
  have : s.get? name = none := by simpa [Schema.contains] using h
  simp [successors, this]

/-- All types found from `todo`, behind those found already. -/
def explore (s : Schema) (todo : List String) (found : Discovery) : Discovery :=
  match todo with
  | [] => found
  | name :: rest =>
    if found.contains name then explore s rest found
    else explore s (successors s name ++ rest) (found.insert name)
termination_by (unseen s.types found, todo.length)
decreasing_by
  · exact Prod.Lex.right _ (Nat.lt_succ_self _)
  · by_cases h : s.contains name
    · exact Prod.Lex.left _ _ (unseen_insert_lt h ‹_›)
    · rw [successors_eq_nil h]
      rcases Nat.lt_or_eq_of_le (unseen_insert_le s.types found name) with hlt | heq
      · exact Prod.Lex.left _ _ hlt
      · rw [heq]
        exact Prod.Lex.right _ (Nat.lt_succ_self _)

/-- The introspection types that must be declared for the documents: those they use and all that
these name. -/
def neededTypes (s reflect : Schema) (documents : List Operation.Document) :
    Except SchemaError Discovery :=
  return explore reflect (← usedTypes s reflect documents) {}

end GraphTypes.Introspection
