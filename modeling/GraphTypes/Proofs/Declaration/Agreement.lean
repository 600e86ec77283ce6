import GraphTypes.Proofs.Declaration.Structure

/-!
# Settings under which types are declared alike

What is declared for a schema depends on the settings in two ways: they decide which types are
declared under which identifiers, and how each of them is declared. If two settings agree on the
first and declare every type alike, then all declarations are alike (`DeclareAlike.declarations`),
where what alike means is left open: it can be equality, or a relation that looks away from a part
of a declaration.
-/

namespace GraphTypes

open Config Name Sdl

/-! ### Lists that are alike -/

/-- Two computations fail with the same error, or yield lists whose elements are alike. -/
inductive AlikeLists {ε α β : Type} (alike : α → β → Prop) :
    Except ε (List α) → Except ε (List β) → Prop
  | ok {as : List α} {bs : List β} (h : List.Forall₂ alike as bs) :
    AlikeLists alike (.ok as) (.ok bs)
  | error (e : ε) : AlikeLists alike (.error e) (.error e)

namespace AlikeLists

variable {ε ε' α β γ δ : Type} {alike : α → β → Prop} {first : Except ε (List α)}
  {second : Except ε (List β)}

theorem mapError (report : ε → ε') (h : AlikeLists alike first second) :
    AlikeLists alike (first.mapError report) (second.mapError report) := by
  cases h with
  | ok h => exact .ok h
  | error e => exact .error (report e)

/-- What is made of elements that are alike may be alike in another sense. -/
theorem map {alike' : γ → δ → Prop} {f : α → γ} {g : β → δ} (h : AlikeLists alike first second)
    (made : ∀ a b, alike a b → alike' (f a) (g b)) :
    AlikeLists alike' (first.map (List.map f)) (second.map (List.map g)) := by
  cases h with
  | ok h => exact .ok (List.rel_map (fun a b => made a b) h)
  | error e => exact .error e

theorem eq {first second : Except ε (List α)} (h : AlikeLists Eq first second) :
    first = second := by
  cases h with
  | ok h =>
    rw [List.forall₂_eq_eq_eq] at h
    rw [h]
  | error e => rfl

end AlikeLists

/-! ### Declarations of several types -/

namespace DeclarationContext

/-- Two contexts declare a type alike, and give the same records for the arguments of its
fields. -/
structure Alike (alike : Declaration → Declaration → Prop) (c c' : DeclarationContext)
    (d : TypeDef) : Prop where
  declare : alike (c.declare d) (c'.declare d)
  argumentRecords (r : Registry) : c.argumentRecords d r = c'.argumentRecords d r

variable {alike : Declaration → Declaration → Prop} {c c' : DeclarationContext}
  {types : List TypeDef}

/-- Contexts that declare each type alike declare several types alike, and claim the same names. -/
theorem forall₂_declareAll_of_alike (refl : ∀ d, alike d d)
    (each : ∀ d ∈ types, Alike alike c c' d) (r : Registry) :
    List.Forall₂ alike (c.declareAll types r).1 (c'.declareAll types r).1 ∧
      (c.declareAll types r).2 = (c'.declareAll types r).2 := by
  induction types generalizing r with
  | nil => exact ⟨.nil, rfl⟩
  | cons d rest ih =>
    obtain ⟨first, others⟩ := List.forall_mem_cons.mp each
    obtain ⟨declared, claimed⟩ := ih others (c'.argumentRecords d r).2
    have records : List.Forall₂ alike (c'.argumentRecords d r).1 (c'.argumentRecords d r).1 :=
      List.forall₂_same.mpr fun e _ => refl e
    rw [declareAll, declareAll, first.argumentRecords r]
    exact ⟨.cons first.declare (List.rel_append records declared), claimed⟩

/-- Contexts that declare each type in the same way declare several types in the same way. -/
theorem declareAll_congr (each : ∀ d ∈ types, Alike Eq c c' d) (r : Registry) :
    c.declareAll types r = c'.declareAll types r := by
  obtain ⟨declared, claimed⟩ := forall₂_declareAll_of_alike (fun _ => rfl) each r
  rw [List.forall₂_eq_eq_eq] at declared
  exact Prod.ext declared claimed

end DeclarationContext

/-! ### All declarations of a schema -/

/-- Settings under which the same types are declared, under the same identifiers and alike. -/
structure Config.Settings.DeclareAlike (alike : Declaration → Declaration → Prop)
    (t t' : Settings) : Prop where
  typeNaming : t'.typeNaming = t.typeNaming
  enumsOnly : t'.enumsOnly = t.enumsOnly
  each (s : Schema) (names : TypeNames) (d : TypeDef) :
    DeclarationContext.Alike alike ⟨s, names, t⟩ ⟨s, names, t'⟩ d

namespace Config.Settings.DeclareAlike

variable {alike : Declaration → Declaration → Prop} {t t' : Settings}
  (h : t.DeclareAlike alike t') (refl : ∀ d, alike d d)

include h

theorem declaredTypes (admits : String → Bool) (s : Schema) :
    declaredTypes t' admits s = declaredTypes t admits s := by
  simp only [GraphTypes.declaredTypes, h.enumsOnly]

theorem ownNames (s : Schema) : ownNames s t' = ownNames s t := by
  simp only [GraphTypes.ownNames, h.typeNaming]

theorem reflectNames (s : Schema) : reflectNames s t' = reflectNames s t := by
  simp only [GraphTypes.reflectNames, h.ownNames, h.typeNaming]

include refl

theorem ownDeclarations (s : Schema) :
    List.Forall₂ alike (ownDeclarations s t).1 (ownDeclarations s t').1 ∧
      (ownDeclarations s t).2 = (ownDeclarations s t').2 := by
  simp only [GraphTypes.ownDeclarations, ownTypes, ownContext, h.declaredTypes, h.ownNames,
    h.reflectNames]
  exact DeclarationContext.forall₂_declareAll_of_alike refl (fun d _ => h.each _ _ d) _

theorem reflectDeclarations (s : Schema) (admits : String → Bool) :
    List.Forall₂ alike (reflectDeclarations s t admits) (reflectDeclarations s t' admits) := by
  simp only [GraphTypes.reflectDeclarations, reflectTypes, reflectContext, h.declaredTypes,
    h.reflectNames, (h.ownDeclarations refl s).2]
  exact (DeclarationContext.forall₂_declareAll_of_alike refl (fun d _ => h.each _ _ d) _).1

/-- All declarations are alike, or cannot be made for the same reason, if the settings also agree on
which introspection types are declared. -/
theorem declarations (same : t'.includeIntrospectionTypes = t.includeIntrospectionTypes)
    (s : Schema) (documents : List Operation.Document) :
    AlikeLists alike (declarations s documents t) (declarations s documents t') := by
  have admitted : admittedIntrospection s documents t' = admittedIntrospection s documents t := by
    simp only [admittedIntrospection, same]
  rw [declarations_eq, declarations_eq, admitted]
  cases admittedIntrospection s documents t with
  | error e => exact .error e
  | ok admits =>
    exact .ok (List.rel_append (h.ownDeclarations refl s).1 (h.reflectDeclarations refl s admits))

end Config.Settings.DeclareAlike

end GraphTypes
