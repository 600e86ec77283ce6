import GraphTypes.Proofs.Declaration.References

/-!
# Wrappers

What is written for a reference is a leaf with wrappers around it: `Maybe` where null is admitted,
and `Array` or `ReadonlyArray` for each list. The wrappers are counted, one number of `Maybe`s for
each depth of the arrays, and the arrays are told apart.

They are counted twice. On a type the count follows its structure (`Ty.maybes`, `Ty.arrays`). On a
text nothing is known of a type, and the wrappers are spelled out (`IsWrapped`). A text has one
count only (`IsWrapped.unique`), so that of the text for a reference says all there is to say about
its wrappers (`Ty.isWrapped_ofTypeExpr_iff`).
-/

namespace GraphTypes

open TypeScript

/-! ### Lists, and null at each depth -/

namespace TypeExpr

/-- Whether null is admitted: for the reference itself, for the items if it is a list, for the items
of these, and so on. -/
def nullability : TypeExpr → List Bool
  | named _ => [true]
  | list item => true :: item.nullability
  | nonNull inner => false :: inner.nullability.tail

/-- How deep the lists of a reference are nested. -/
def depth : TypeExpr → Nat
  | named _ => 0
  | list item => item.depth + 1
  | nonNull inner => inner.depth

theorem nullability_eq_cons (type : TypeExpr) :
    type.nullability = type.isNullable :: type.nullability.tail := by
  cases type <;> rfl

end TypeExpr

/-! ### Wrappers of a type -/

namespace TypeScript.Ty

/-- How often a type is wrapped in `Maybe`: the type itself, its items if it is an array, the items
of these, and so on. -/
def maybes : Ty → List Nat
  | leaf _ => [0]
  | array _ item => 0 :: item.maybes
  | maybe inner => inner.maybes.modifyHead (· + 1)

/-- The arrays of a type from the outside, by whether they are read-only. -/
def arrays : Ty → List Bool
  | leaf _ => []
  | array readonly item => readonly :: item.arrays
  | maybe inner => inner.arrays

theorem arrays_orNull (nullable : Bool) (type : Ty) :
    (orNull nullable type).arrays = type.arrays := by
  cases nullable <;> rfl

theorem maybes_ne_nil (type : Ty) : type.maybes ≠ [] := by
  induction type with
  | leaf text => exact List.cons_ne_nil _ _
  | array readonly item _ => exact List.cons_ne_nil _ _
  | maybe inner ih => rwa [maybes, Ne, List.modifyHead_eq_nil_iff]

variable (readonly : Bool) (leafOf : String → String)

/-- On the outside there is a wrapper if the reference admits null and no mark around it forbids it;
further inside the reference alone decides. -/
theorem maybes_ofTypeExprAs (nullable : Bool) (type : TypeExpr) :
    (ofTypeExprAs readonly leafOf nullable type).maybes =
      (nullable && type.isNullable).toNat :: type.nullability.tail.map Bool.toNat := by
  induction type generalizing nullable with
  | named name => cases nullable <;> rfl
  | list item ih =>
    -- Nothing around the items forbids null.
    have items := ih true
    rw [Bool.true_and, ← List.map_cons, ← TypeExpr.nullability_eq_cons] at items
    cases nullable <;> simp [ofTypeExprAs, orNull, maybes, items, TypeExpr.isNullable,
      TypeExpr.nullability]
  | nonNull inner ih =>
    rw [ofTypeExprAs, ih]
    simp [TypeExpr.isNullable, TypeExpr.nullability]

theorem maybes_ofTypeExpr (type : TypeExpr) :
    (ofTypeExpr readonly leafOf type).maybes = type.nullability.map Bool.toNat := by
  rw [ofTypeExpr, maybes_ofTypeExprAs, Bool.true_and, ← List.map_cons,
    ← TypeExpr.nullability_eq_cons]

/-- A list of lists of numbers: null is admitted for the inner lists alone. -/
example : (ofTypeExpr true id (.nonNull (.list (.list (.nonNull (.named "number")))))).maybes =
    [0, 1, 0] := rfl

theorem arrays_ofTypeExprAs (nullable : Bool) (type : TypeExpr) :
    (ofTypeExprAs readonly leafOf nullable type).arrays = List.replicate type.depth readonly := by
  induction type generalizing nullable with
  | named name => rw [ofTypeExprAs, arrays_orNull]; rfl
  | list item ih =>
    rw [ofTypeExprAs, arrays_orNull, arrays, ih, TypeExpr.depth, List.replicate_succ]
  | nonNull inner ih => rw [ofTypeExprAs, ih, TypeExpr.depth]

theorem arrays_ofTypeExpr (type : TypeExpr) :
    (ofTypeExpr readonly leafOf type).arrays = List.replicate type.depth readonly :=
  arrays_ofTypeExprAs readonly leafOf true type

end TypeScript.Ty

/-! ### Wrappers of a text -/

/-- A text is a leaf in wrappers: so many `Maybe`s at each depth of its arrays, and these arrays, by
whether they are read-only, both from the outside. -/
inductive TypeScript.IsWrapped (leaf : String) : List Nat → List Bool → String → Prop
  | leaf : IsWrapped leaf [0] [] leaf
  | maybe {outside : Nat} {inside : List Nat} {arrays : List Bool} {text : String}
    (inner : IsWrapped leaf (outside :: inside) arrays text) :
    IsWrapped leaf ((outside + 1) :: inside) arrays ("Maybe<" ++ text ++ ">")
  | array {maybes : List Nat} {arrays : List Bool} {text : String}
    (item : IsWrapped leaf maybes arrays text) :
    IsWrapped leaf (0 :: maybes) (false :: arrays) ("Array<" ++ text ++ ">")
  | readonlyArray {maybes : List Nat} {arrays : List Bool} {text : String}
    (item : IsWrapped leaf maybes arrays text) :
    IsWrapped leaf (0 :: maybes) (true :: arrays) ("ReadonlyArray<" ++ text ++ ">")

namespace TypeScript

section

variable {leaf text text' : String} {maybes maybes' : List Nat} {arrays arrays' : List Bool}

theorem IsWrapped.length_le (h : IsWrapped leaf maybes arrays text) :
    leaf.length ≤ text.length := by
  induction h with
  | leaf => exact Nat.le_refl _
  | maybe _ ih | array _ ih | readonlyArray _ ih =>
    simp only [String.length_append]
    omega

/-- What is wrapped once more is longer than the leaf. -/
theorem IsWrapped.leaf_ne {opening : String} (h : IsWrapped leaf maybes arrays text) :
    leaf ≠ opening ++ text ++ ">" := by
  intro same
  have longer := h.length_le
  have closing : ">".length = 1 := rfl
  have lengths := congrArg String.length same
  simp only [String.length_append] at lengths
  omega

/-- A text has one count of wrappers: it is longer than the leaf if there are any, and they differ
in what they begin with. -/
theorem IsWrapped.unique (h : IsWrapped leaf maybes arrays text)
    (h' : IsWrapped leaf maybes' arrays' text') (same : text = text') :
    maybes = maybes' ∧ arrays = arrays' := by
  have differ {s t : String} (heads : s.toList.head? ≠ t.toList.head?) : s ≠ t := by
    rintro rfl
    exact heads rfl
  -- The front of a text shows which wrapper is the outermost, so the two counts are peeled together.
  induction h generalizing maybes' arrays' text' with
  | leaf =>
    cases h' with
    | leaf => exact ⟨rfl, rfl⟩
    | maybe other | array other | readonlyArray other => exact absurd same other.leaf_ne
  | maybe inner ih =>
    cases h' with
    | leaf => exact absurd same.symm inner.leaf_ne
    | maybe other =>
      rw [String.append_left_inj, String.append_right_inj] at same
      obtain ⟨counts, rfl⟩ := ih other same
      cases counts
      exact ⟨rfl, rfl⟩
    | array _ | readonlyArray _ => exact absurd same (differ (by simp))
  | array item ih =>
    cases h' with
    | leaf => exact absurd same.symm item.leaf_ne
    | array other =>
      rw [String.append_left_inj, String.append_right_inj] at same
      obtain ⟨rfl, rfl⟩ := ih other same
      exact ⟨rfl, rfl⟩
    | maybe _ | readonlyArray _ => exact absurd same (differ (by simp))
  | readonlyArray item ih =>
    cases h' with
    | leaf => exact absurd same.symm item.leaf_ne
    | readonlyArray other =>
      rw [String.append_left_inj, String.append_right_inj] at same
      obtain ⟨rfl, rfl⟩ := ih other same
      exact ⟨rfl, rfl⟩
    | maybe _ | array _ => exact absurd same (differ (by simp))

/-- The text of a type has the wrappers of the type. -/
theorem Ty.isWrapped_text (type : Ty) :
    IsWrapped type.leafText type.maybes type.arrays type.text := by
  induction type with
  | leaf text => exact .leaf
  | array readonly item ih =>
    cases readonly with
    | true => exact .readonlyArray ih
    | false => exact .array ih
  | maybe inner ih =>
    rw [maybes]
    cases counts : inner.maybes with
    | nil => exact absurd counts inner.maybes_ne_nil
    | cons outside inside =>
      rw [counts] at ih
      exact .maybe ih

/-- The text for a reference has a `Maybe` at each depth at which null is admitted, one array for
each list, all of one kind, and no other wrappers. -/
theorem Ty.isWrapped_ofTypeExpr_iff (readonly : Bool) (leafOf : String → String)
    (type : TypeExpr) :
    IsWrapped (leafOf type.innermost) maybes arrays (ofTypeExpr readonly leafOf type).text ↔
      maybes = type.nullability.map Bool.toNat ∧ arrays = List.replicate type.depth readonly := by
  have wrapped := (ofTypeExpr readonly leafOf type).isWrapped_text
  rw [leafText_ofTypeExpr, maybes_ofTypeExpr, arrays_ofTypeExpr] at wrapped
  constructor
  · intro h
    exact h.unique wrapped rfl
  · rintro ⟨rfl, rfl⟩
    exact wrapped

end

end TypeScript

end GraphTypes
