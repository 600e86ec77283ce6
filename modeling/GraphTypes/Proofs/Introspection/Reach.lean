import GraphTypes.Introspection.Usage
import GraphTypes.Proofs.Introspection.Occurrence

/-!
# What documents select

What a scan of operation documents should find is said here without a scan. A selection is reached
from the selections of a definition through fields that resolve and through inline fragments, one
inside the other (`Reaches`); fragment spreads lead nowhere. A definition is at fault if it has no
type to start from, or if an unknown type condition is reached in it (`Faulty`). An introspection
type is used where a field of this type is reached (`Uses`).

A selection is reached at a position. `reaches_singleton_iff` and `reaches_cons_iff` follow the
recursion of a scan: into a selection, and on to the next one.
-/

namespace GraphTypes.Introspection

open Operation

/-! ### Where the scan comes -/

section

variable (s reflect : Schema)

/-- A selection on `parent` leads to further selections, on a type: a field on the type that it
resolves to, an inline fragment on its type condition or else on `parent` again. -/
inductive Opens (parent : String) : Selection → String → List Selection → Prop
  | field {name type : String} (inner : List Selection)
    (resolves : fieldType? s reflect parent name = some type) :
    Opens parent (.field name inner) type inner
  | fragment (condition : Option String) (inner : List Selection) :
    Opens parent (.inlineFragment condition inner) (condition.getD parent) inner

/-- From selections on `parent` the scan comes to a selection at a position, which it reads on the
type `on`. -/
inductive Reaches : String → List Selection → List Nat → String → Selection → Prop
  | here {parent : String} {selections : List Selection} {i : Nat} {selection : Selection}
    (found : selections[i]? = some selection) :
    Reaches parent selections [i] parent selection
  | inside {parent type on : String} {selections inner : List Selection} {i : Nat}
    {position : List Nat} {outer selection : Selection} (found : selections[i]? = some outer)
    (opens : Opens s reflect parent outer type inner)
    (reached : Reaches type inner position on selection) :
    Reaches parent selections (i :: position) on selection

/-- A definition has selections on a type: an operation on its root type, a fragment on its type
condition. -/
inductive Starts : Definition → String → List Selection → Prop
  | operation {kind : OperationKind} {root : String} (selections : List Selection)
    (declared : s.root? kind = some root) : Starts (.operation kind selections) root selections
  | fragment (name condition : String) (selections : List Selection) :
    Starts (.fragment name condition selections) condition selections

/-- A name that a type condition can give. -/
def IsKnown (name : String) : Prop := s.contains name ∨ reflect.contains name

/-- A definition is at fault: it has no root type, or its own type condition is unknown, or one that
is reached in it. -/
inductive Faulty : Definition → SchemaError → Prop
  | missingRoot {kind : OperationKind} (selections : List Selection)
    (missing : s.root? kind = none) : Faulty (.operation kind selections) (.missingRoot kind)
  | fragment {condition : String} (name : String) (selections : List Selection)
    (unknown : ¬ IsKnown s reflect condition) :
    Faulty (.fragment name condition selections) (.unknownType condition "type condition")
  | inlineFragment {d : Definition} {parent on condition : String}
    {selections inner : List Selection} {position : List Nat} (starts : Starts s d parent selections)
    (reached : Reaches s reflect parent selections position on
      (.inlineFragment (some condition) inner))
    (unknown : ¬ IsKnown s reflect condition) :
    Faulty d (.unknownType condition "type condition")

/-- From selections on `parent` a field of the given introspection type is reached at a position. -/
def UsesIn (parent : String) (selections : List Selection) (position : List Nat)
    (name : String) : Prop :=
  isReflection name ∧ reflect.contains name ∧ ∃ on field inner,
    Reaches s reflect parent selections position on (.field field inner) ∧
      fieldType? s reflect on field = some name

/-- Definitions use an introspection type at a position, which begins with the place of the
definition. -/
def Uses (definitions : List Definition) (position : List Nat) (name : String) : Prop :=
  ∃ i d parent selections inner, position = i :: inner ∧ definitions[i]? = some d ∧
    Starts s d parent selections ∧ UsesIn s reflect parent selections inner name

/-- From selections on `parent` an unknown type condition is reached. -/
def FaultIn (parent : String) (selections : List Selection) (e : SchemaError) : Prop :=
  ∃ position on condition inner,
    Reaches s reflect parent selections position on (.inlineFragment (some condition) inner) ∧
      ¬ IsKnown s reflect condition ∧ e = .unknownType condition "type condition"

end

/-! ### Steps on the way to a selection -/

section

variable {s reflect : Schema} {parent type on name : String} {e : SchemaError}
  {selections rest inner within : List Selection} {position : List Nat}
  {selection first : Selection}

theorem opens_field_iff :
    Opens s reflect parent (.field name within) type inner ↔
      fieldType? s reflect parent name = some type ∧ inner = within := by
  constructor
  · rintro (⟨-, resolves⟩ | -)
    exact ⟨resolves, rfl⟩
  · rintro ⟨resolves, rfl⟩
    exact .field inner resolves

theorem opens_fragment_iff {condition : Option String} :
    Opens s reflect parent (.inlineFragment condition within) type inner ↔
      type = condition.getD parent ∧ inner = within := by
  constructor
  · rintro (- | -)
    exact ⟨rfl, rfl⟩
  · rintro ⟨rfl, rfl⟩
    exact .fragment condition inner

theorem not_opens_spread {fragment : String} :
    ¬ Opens s reflect parent (.spread fragment) type inner := by
  rintro (- | -)

theorem not_reaches_nil : ¬ Reaches s reflect parent [] position on selection := by
  intro h
  cases h with
  | here found => cases found
  | inside found _ _ => cases found

theorem getElem?_singleton_eq_some_iff {i : Nat} :
    [first][i]? = some selection ↔ i = 0 ∧ selection = first := by
  rw [List.getElem?_singleton]
  split <;> simp_all [eq_comm]

/-- From a single selection the scan comes to the selection itself and to what it leads to. -/
theorem reaches_singleton_iff :
    Reaches s reflect parent [first] position on selection ↔
      position = [0] ∧ on = parent ∧ selection = first ∨
        ∃ type inner, Opens s reflect parent first type inner ∧
          ∃ q, position = 0 :: q ∧ Reaches s reflect type inner q on selection := by
  constructor
  · intro h
    cases h with
    | @here _ _ i _ found =>
      obtain ⟨rfl, rfl⟩ := getElem?_singleton_eq_some_iff.mp found
      exact Or.inl ⟨rfl, rfl, rfl⟩
    | @inside _ type _ _ inner i q _ _ found opens reached =>
      obtain ⟨rfl, rfl⟩ := getElem?_singleton_eq_some_iff.mp found
      exact Or.inr ⟨type, inner, opens, q, rfl, reached⟩
  · rintro (⟨rfl, rfl, rfl⟩ | ⟨type, inner, opens, q, rfl, reached⟩)
    · exact .here rfl
    · exact .inside rfl opens reached

/-- What is reached from several selections is reached from the first or from the others. -/
theorem reaches_cons_iff :
    Reaches s reflect parent (first :: rest) position on selection ↔
      Reaches s reflect parent [first] position on selection ∨
        ∃ q, position = later q ∧ Reaches s reflect parent rest q on selection := by
  constructor
  · intro h
    cases h with
    | @here _ _ i _ found =>
      cases i with
      | zero => exact Or.inl (.here found)
      | succ i => exact Or.inr ⟨[i], rfl, .here found⟩
    | @inside _ _ _ _ _ i q _ _ found opens reached =>
      cases i with
      | zero => exact Or.inl (.inside found opens reached)
      | succ i => exact Or.inr ⟨i :: q, rfl, .inside found opens reached⟩
  · rintro (h | ⟨q, rfl, h⟩)
    · rcases reaches_singleton_iff.mp h with ⟨rfl, rfl, rfl⟩ | ⟨_, _, opens, q, rfl, reached⟩
      · exact .here rfl
      · exact .inside rfl opens reached
    · cases h with
      | @here _ _ i _ found => exact .here (i := i + 1) found
      | @inside _ _ _ _ _ i _ _ _ found opens reached =>
        exact .inside (i := i + 1) found opens reached

theorem Reaches.position_ne_nil (h : Reaches s reflect parent selections position on selection) :
    position ≠ [] := by
  cases h <;> exact List.cons_ne_nil _ _

/-! ### Faults and uses of a single selection, and of several -/

theorem UsesIn.position_ne_nil (h : UsesIn s reflect parent selections position name) :
    position ≠ [] := by
  obtain ⟨_, _, _, _, _, reached, _⟩ := h
  exact reached.position_ne_nil

/-- At fault in a single selection is its own type condition, or something inside. -/
theorem faultIn_singleton_iff :
    FaultIn s reflect parent [first] e ↔
      (∃ condition inner, first = .inlineFragment (some condition) inner ∧
        ¬ IsKnown s reflect condition ∧ e = .unknownType condition "type condition") ∨
      ∃ type inner, Opens s reflect parent first type inner ∧ FaultIn s reflect type inner e := by
  simp only [FaultIn, reaches_singleton_iff]
  constructor
  · rintro ⟨_, _, c, inner, ⟨-, -, rfl⟩ | ⟨type, within, opens, q, rfl, h⟩, unknown⟩
    · exact Or.inl ⟨c, inner, rfl, unknown⟩
    · exact Or.inr ⟨type, within, opens, q, _, c, inner, h, unknown⟩
  · rintro (⟨c, inner, rfl, unknown⟩ | ⟨type, within, opens, q, on, c, inner, h, unknown⟩)
    · exact ⟨[0], parent, c, inner, Or.inl ⟨rfl, rfl, rfl⟩, unknown⟩
    · exact ⟨0 :: q, on, c, inner, Or.inr ⟨type, within, opens, q, rfl, h⟩, unknown⟩

/-- A single selection uses the type of its own field, and what is used inside. -/
theorem usesIn_singleton_iff :
    UsesIn s reflect parent [first] position name ↔
      (position = [0] ∧ isReflection name ∧ reflect.contains name ∧
        ∃ field inner, first = .field field inner ∧
          fieldType? s reflect parent field = some name) ∨
      ∃ type inner, Opens s reflect parent first type inner ∧
        ∃ q, position = 0 :: q ∧ UsesIn s reflect type inner q name := by
  simp only [UsesIn, reaches_singleton_iff]
  constructor
  · rintro ⟨hr, hc, _, field, inner, ⟨rfl, rfl, rfl⟩ | ⟨type, within, opens, q, rfl, h⟩, htype⟩
    · exact Or.inl ⟨rfl, hr, hc, field, inner, rfl, htype⟩
    · exact Or.inr ⟨type, within, opens, q, rfl, hr, hc, _, field, inner, h, htype⟩
  · rintro (⟨rfl, hr, hc, field, inner, rfl, htype⟩ |
      ⟨type, within, opens, q, rfl, hr, hc, on, field, inner, h, htype⟩)
    · exact ⟨hr, hc, parent, field, inner, Or.inl ⟨rfl, rfl, rfl⟩, htype⟩
    · exact ⟨hr, hc, on, field, inner, Or.inr ⟨type, within, opens, q, rfl, h⟩, htype⟩

theorem faultIn_cons_iff :
    FaultIn s reflect parent (first :: rest) e ↔
      FaultIn s reflect parent [first] e ∨ FaultIn s reflect parent rest e := by
  constructor
  · rintro ⟨p, on, c, inner, h, unknown⟩
    rcases reaches_cons_iff.mp h with h | ⟨q, -, h⟩
    · exact Or.inl ⟨p, on, c, inner, h, unknown⟩
    · exact Or.inr ⟨q, on, c, inner, h, unknown⟩
  · rintro (⟨p, on, c, inner, h, unknown⟩ | ⟨q, on, c, inner, h, unknown⟩)
    · exact ⟨p, on, c, inner, reaches_cons_iff.mpr (Or.inl h), unknown⟩
    · exact ⟨later q, on, c, inner, reaches_cons_iff.mpr (Or.inr ⟨q, rfl, h⟩), unknown⟩

theorem usesIn_cons_iff :
    UsesIn s reflect parent (first :: rest) position name ↔
      UsesIn s reflect parent [first] position name ∨
        ∃ q, position = later q ∧ UsesIn s reflect parent rest q name := by
  constructor
  · rintro ⟨hr, hc, on, field, inner, h, htype⟩
    rcases reaches_cons_iff.mp h with front | ⟨q, rfl, back⟩
    · exact Or.inl ⟨hr, hc, on, field, inner, front, htype⟩
    · exact Or.inr ⟨q, rfl, hr, hc, on, field, inner, back, htype⟩
  · rintro (⟨hr, hc, on, field, inner, h, htype⟩ | ⟨q, rfl, hr, hc, on, field, inner, h, htype⟩)
    · exact ⟨hr, hc, on, field, inner, reaches_cons_iff.mpr (Or.inl h), htype⟩
    · exact ⟨hr, hc, on, field, inner, reaches_cons_iff.mpr (Or.inr ⟨q, rfl, h⟩), htype⟩

end

end GraphTypes.Introspection
