import GraphTypes.Proofs.Declaration.References
import GraphTypes.Proofs.Declaration.Uniqueness

/-!
# A reference can be read off its type

The TypeScript type for a reference is a text, and nothing of the reference is lost in it. There are
two steps. The text determines the type (`Ty.text_inj`): what stands for a named type holds no angle
bracket, so a bracket shows a wrapper, and the three wrappers differ in what they begin with. The
type determines the reference (`Ty.reference_ofTypeExpr`): what is not wrapped in `Maybe` was marked
as never null. Only a mark upon a mark leaves no trace, and references that are reduced have none.

With identifiers that belong to one type each, `text_ofTypeExpr_inj` follows.
-/

namespace GraphTypes

open Config Name Sdl TypeScript

/-! ### References without doubled marks -/

namespace TypeExpr

/-- Whether no non-null mark stands directly on another one. -/
def isReduced : TypeExpr → Bool
  | named _ => true
  | list item => item.isReduced
  | nonNull inner => inner.isNullable && inner.isReduced

/-- The same reference with another name for its named type. -/
def rename (f : String → String) : TypeExpr → TypeExpr
  | named name => named (f name)
  | list item => list (item.rename f)
  | nonNull inner => nonNull (inner.rename f)

theorem rename_inj {f : String → String} {a b : TypeExpr}
    (inj : f a.innermost = f b.innermost → a.innermost = b.innermost)
    (same : a.rename f = b.rename f) : a = b := by
  induction a generalizing b with
  | named name =>
    cases b with
    | named other =>
      simp only [rename, named.injEq] at same
      exact congrArg named (inj same)
    | list _ => simp [rename] at same
    | nonNull _ => simp [rename] at same
  | list item ih =>
    cases b with
    | list other =>
      simp only [rename, list.injEq] at same
      exact congrArg list (ih inj same)
    | named _ => simp [rename] at same
    | nonNull _ => simp [rename] at same
  | nonNull inner ih =>
    cases b with
    | nonNull other =>
      simp only [rename, nonNull.injEq] at same
      exact congrArg nonNull (ih inj same)
    | named _ => simp [rename] at same
    | list _ => simp [rename] at same

end TypeExpr

/-! ### The reference of a type -/

namespace TypeScript.Ty

/-- The reference that a type is for, with the text of its heart as the name. A second `Maybe`
around a type, which no reference has, does not count. -/
def reference : Ty → TypeExpr
  | leaf text => .nonNull (.named text)
  | array _ item => .nonNull (.list item.reference)
  | maybe (leaf text) => .named text
  | maybe (array _ item) => .list item.reference
  | maybe (maybe inner) => (maybe inner).reference

/-- A reduced reference is that of its type. -/
theorem reference_ofTypeExpr (readonly : Bool) (leafOf : String → String) {type : TypeExpr}
    (reduced : type.isReduced) :
    (ofTypeExpr readonly leafOf type).reference = type.rename leafOf := by
  -- What is known to be never null stands without `Maybe`, and is itself no non-null reference.
  have marked : (ofTypeExprAs readonly leafOf true type).reference = type.rename leafOf ∧
      (type.isNullable → (ofTypeExprAs readonly leafOf false type).reference =
        .nonNull (type.rename leafOf)) := by
    induction type with
    | named name => simp [ofTypeExprAs, orNull, reference, TypeExpr.rename]
    | list item ih =>
      simp only [TypeExpr.isReduced] at reduced
      simp [ofTypeExprAs, orNull, reference, TypeExpr.rename, (ih reduced).1]
    | nonNull inner ih =>
      simp only [TypeExpr.isReduced, Bool.and_eq_true] at reduced
      obtain ⟨nullable, reduced⟩ := reduced
      simp [ofTypeExprAs, TypeExpr.rename, TypeExpr.isNullable, (ih reduced).2 nullable]
  exact marked.1

/-! ### The type of a text -/

theorem bracket_mem_text_maybe (inner : Ty) : '<' ∈ (maybe inner).text.toList := by
  simp [text]

theorem bracket_mem_text_array (readonly : Bool) (item : Ty) :
    '<' ∈ (array readonly item).text.toList := by
  cases readonly <;> simp [text]

theorem head?_text_maybe (inner : Ty) : (maybe inner).text.toList.head? = some 'M' := by
  simp [text]

theorem head?_text_array (readonly : Bool) (item : Ty) :
    (array readonly item).text.toList.head? = some (if readonly then 'R' else 'A') := by
  cases readonly <;> simp [text]

/-- Where nothing that stands for a named type holds a bracket, a text is that of one type only. -/
theorem text_inj {t u : Ty} (ht : '<' ∉ t.leafText.toList) (hu : '<' ∉ u.leafText.toList)
    (same : t.text = u.text) : t = u := by
  induction t generalizing u with
  | leaf name =>
    cases u with
    | leaf other => exact congrArg leaf same
    | maybe inner =>
      have bracket := bracket_mem_text_maybe inner
      rw [← same] at bracket
      exact absurd bracket ht
    | array readonly item =>
      have bracket := bracket_mem_text_array readonly item
      rw [← same] at bracket
      exact absurd bracket ht
  | maybe inner ih =>
    cases u with
    | leaf other =>
      have bracket := bracket_mem_text_maybe inner
      rw [same] at bracket
      exact absurd bracket hu
    | maybe other =>
      rw [text, text, String.append_left_inj, String.append_right_inj] at same
      exact congrArg maybe (ih ht hu same)
    | array readonly item =>
      have first := head?_text_array readonly item
      rw [← same, head?_text_maybe] at first
      cases readonly <;> simp at first
  | array readonly item ih =>
    cases u with
    | leaf other =>
      have bracket := bracket_mem_text_array readonly item
      rw [same] at bracket
      exact absurd bracket hu
    | maybe inner =>
      have first := head?_text_array readonly item
      rw [same, head?_text_maybe] at first
      cases readonly <;> simp at first
    | array readonly' other =>
      have flags : readonly = readonly' := by
        have first := head?_text_array readonly item
        rw [same, head?_text_array] at first
        cases readonly <;> cases readonly' <;> simp at first ⊢
      subst flags
      rw [text, text, String.append_left_inj, String.append_right_inj] at same
      exact congrArg (array readonly) (ih ht hu same)

end TypeScript.Ty

/-! ### The result -/

theorem bracket_not_mem_of_isName {name : String} (h : IsName name) : '<' ∉ name.toList := by
  intro bracket
  exact absurd (h.2 '<' bracket) (by decide)

/-- A reference to a declared type that is no built-in scalar, without doubled marks. -/
structure Schema.CanRefer (s : Schema) (type : TypeExpr) : Prop where
  reduced : type.isReduced
  declared : s.contains type.innermost
  plain : ¬ isBuiltinScalar type.innermost

/-- If the types of a schema have GraphQL names, two references to its types have the same text only
if they are the same: in their lists, their marks and their named type. This holds whatever names
were in use before the types got their identifiers, and under all settings. -/
theorem text_ofTypeExpr_inj {s : Schema} (named : ∀ d ∈ s.types, IsName d.name)
    (settings : Settings) (r : Registry) {a b : TypeExpr} (ha : s.CanRefer a) (hb : s.CanRefer b) :
    let refer := (TypeNames.assign settings.typeNaming s.types r).1.refer settings
    (Ty.ofTypeExpr settings.immutableTypes refer a).text =
      (Ty.ofTypeExpr settings.immutableTypes refer b).text ↔ a = b := by
  intro refer
  have identifier : ∀ {type : TypeExpr}, s.CanRefer type → IsName (refer type.innermost) := by
    intro type h
    obtain ⟨d, hd, hname⟩ := Schema.contains_iff.mp h.declared
    let c : DeclarationContext :=
      ⟨s, (TypeNames.assign settings.typeNaming s.types r).1, settings⟩
    rw [← hname]
    exact c.isName_refer rfl named hd (hname ▸ h.plain)
  constructor
  · intro same
    have types := Ty.text_inj
      (by simpa using bracket_not_mem_of_isName (identifier ha))
      (by simpa using bracket_not_mem_of_isName (identifier hb)) same
    have renamed := congrArg Ty.reference types
    rw [Ty.reference_ofTypeExpr _ _ ha.reduced, Ty.reference_ofTypeExpr _ _ hb.reduced] at renamed
    apply TypeExpr.rename_inj _ renamed
    intro sameIdentifier
    obtain ⟨d, hd, hd'⟩ := Schema.contains_iff.mp ha.declared
    obtain ⟨e, he, he'⟩ := Schema.contains_iff.mp hb.declared
    rw [← hd', ← he'] at sameIdentifier ⊢
    rw [TypeNames.eq_of_refer_eq settings.typeNaming r s.wellFormed.nodup hd he
      (hd' ▸ ha.plain) (he' ▸ hb.plain) sameIdentifier]
  · intro same
    rw [same]

/-- Two types whose names the naming convention makes the same. -/
theorem text_ofTypeExpr_inj_homonyms :
    let a := TypeExpr.nonNull (.list (.nonNull (.named "userQueryArgs")))
    let b := TypeExpr.nonNull (.list (.nonNull (.named "UserQueryArgs")))
    let refer := (TypeNames.assign plainSettings.typeNaming Schema.homonyms.types
      baseRegistry).1.refer plainSettings
    (∀ d ∈ Schema.homonyms.types, IsName d.name) ∧
      Schema.homonyms.CanRefer a ∧ Schema.homonyms.CanRefer b ∧
      plainSettings.typeNaming.apply a.innermost = plainSettings.typeNaming.apply b.innermost ∧
      a ≠ b ∧
      ((Ty.ofTypeExpr plainSettings.immutableTypes refer a).text =
        (Ty.ofTypeExpr plainSettings.immutableTypes refer b).text ↔ a = b) := by
  intro a b refer
  have named : ∀ d ∈ Schema.homonyms.types, IsName d.name := by decide +kernel
  have ha : Schema.homonyms.CanRefer a :=
    ⟨by decide +kernel, by decide +kernel, by decide +kernel⟩
  have hb : Schema.homonyms.CanRefer b :=
    ⟨by decide +kernel, by decide +kernel, by decide +kernel⟩
  refine ⟨named, ha, hb, by decide +kernel, by decide +kernel, ?_⟩
  exact text_ofTypeExpr_inj named plainSettings baseRegistry ha hb

end GraphTypes
