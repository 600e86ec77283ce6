import GraphTypes.Proofs.Declaration.Uniqueness

/-!
# What a request for introspection types leaves open

Introspection types that are declared on request are declared all together, and their declarations
refer to nothing else. But a schema may have types of its own whose names begin like theirs. These
are left out with or without a request: the walk over the schema takes them for introspection types,
and the walk over the introspection schema does not meet them. So the output is closed exactly if no
other type refers to one of them.
-/

namespace GraphTypes

open Config Name Sdl

/-! ### References that are resolved -/

namespace DeclarationContext

/-- Whatever types the declarations of `types` refer to, their identifiers are introduced. -/
def Resolves (c : DeclarationContext) (types : List TypeDef) (ds : List Declaration) : Prop :=
  ∀ o ∈ origins types, ∀ ref ∈ o.references c.schema, ¬ isBuiltinScalar ref.innermost →
    ∃ d ∈ ds, d.identifier = c.refer ref.innermost

theorem resolves_of_closed {c : DeclarationContext} {types : List TypeDef} {r : Registry}
    {ds : List Declaration} (hds : (c.declareAll types r).1 ⊆ ds)
    (closed : ∀ o ∈ origins types, ∀ ref ∈ o.references c.schema,
      isBuiltinScalar ref.innermost ∨ ∃ t ∈ types, t.name = ref.innermost) :
    c.Resolves types ds := by
  intro o ho ref href builtin
  obtain ⟨t, ht, hname⟩ := (closed o ho ref href).resolve_left builtin
  obtain ⟨d, hd, -, -, hidentifier⟩ := c.introduces_declareAll ht r
  exact ⟨d, hds hd, by rw [hidentifier, hname]⟩

end DeclarationContext

theorem not_isReflection_of_isBuiltinScalar {name : String} (h : isBuiltinScalar name) :
    ¬ isReflection name := by
  have all : ∀ name ∈ builtinScalars, ¬ isReflection name := by decide
  exact all name (List.contains_iff_mem.mp h)

section Output

variable {s : Schema} {settings : Settings} {admits : String → Bool}

/-- The part about the schema itself is closed exactly if none of its references is to a type whose
name begins like that of an introspection type. -/
theorem resolves_ownTypes_iff :
    (ownContext s settings).Resolves (ownTypes s settings)
        ((ownDeclarations s settings).1 ++ reflectDeclarations s settings admits) ↔
      ∀ o ∈ origins (ownTypes s settings), ∀ ref ∈ o.references s,
        ¬ isReflection ref.innermost := by
  constructor
  · intro resolves o ho ref href
    by_cases builtin : isBuiltinScalar ref.innermost
    · exact not_isReflection_of_isBuiltinScalar builtin
    · have known := Origin.resolves_of_mem_references (declaredTypes_subset s settings _) ho href
      obtain ⟨t, ht, hname⟩ := known.resolve_left builtin
      have introduced := resolves o ho ref href builtin
      rw [← hname] at builtin introduced ⊢
      have declared := (exists_identifier_iff ht builtin).mp introduced
      simpa using ((mem_declaredTypes s settings).mp declared).2.2.1
  · intro apart
    apply DeclarationContext.resolves_of_closed (List.subset_append_left _ _)
    apply closed_declaredTypes
    intro o ho ref href _
    simpa using apart o ho ref href

end Output

/-! ### The result -/

/-- If introspection types are asked for, they are all declared, and so is what their declarations
refer to. What the declarations of the other types refer to is declared exactly if none of them
refers to a type of the schema whose name begins like that of an introspection type. -/
theorem declarations_requested (s : Schema) (documents : List Operation.Document)
    {settings : Settings} (requested : settings.includeIntrospectionTypes) :
    ∃ ds own reflected, declarations s documents settings = .ok ds ∧ ds = own ++ reflected ∧
      List.Forall₂ (ownContext s settings).Declares (origins (ownTypes s settings)) own ∧
      List.Forall₂ (reflectContext s settings).Declares
        (origins (reflectTypes settings fun _ => true)) reflected ∧
      (reflectContext s settings).Resolves (reflectTypes settings fun _ => true) ds ∧
      ((ownContext s settings).Resolves (ownTypes s settings) ds ↔
        ∀ o ∈ origins (ownTypes s settings), ∀ ref ∈ o.references s,
          ¬ isReflection ref.innermost) := by
  have admitted : admittedIntrospection s documents settings = .ok fun _ => true := by
    rw [admittedIntrospection, if_pos requested]
  refine ⟨_, (ownDeclarations s settings).1, reflectDeclarations s settings fun _ => true, ?_, rfl,
    (ownContext s settings).forall₂_declareAll _ _,
    (reflectContext s settings).forall₂_declareAll _ _, ?_, resolves_ownTypes_iff⟩
  · rw [declarations_eq, admitted]
    rfl
  · apply DeclarationContext.resolves_of_closed (List.subset_append_right _ _)
    exact closed_declaredTypes (admits_references admitted)

/-- A type of its own that nobody refers to, under the name that it would have by reflection. -/
def Schema.unseen : Schema where
  types :=
    [{ description := none, name := "Query"
       shape := .object []
        [{ description := none, name := "greeting", arguments := [], type := .named "String" }] },
      { description := none, name := "__Type"
        shape := .object []
         [{ description := none, name := "root", arguments := [], type := .named "Query" }] }]
  roots := { query := some "Query" }
  faultless := by decide +kernel

theorem declarations_requested_unseen :
    let settings := { plainSettings with includeIntrospectionTypes := true }
    settings.includeIntrospectionTypes ∧
      ∃ ds own reflected, declarations Schema.unseen [] settings = .ok ds ∧ ds = own ++ reflected ∧
        List.Forall₂ (ownContext Schema.unseen settings).Declares
          (origins (ownTypes Schema.unseen settings)) own ∧
        List.Forall₂ (reflectContext Schema.unseen settings).Declares
          (origins (reflectTypes settings fun _ => true)) reflected ∧
        (reflectContext Schema.unseen settings).Resolves (reflectTypes settings fun _ => true) ds ∧
        (ownContext Schema.unseen settings).Resolves (ownTypes Schema.unseen settings) ds := by
  intro settings
  have requested : settings.includeIntrospectionTypes := rfl
  have apart : ∀ o ∈ origins (ownTypes Schema.unseen settings), ∀ ref ∈ o.references Schema.unseen,
      ¬ isReflection ref.innermost := by decide +kernel
  obtain ⟨ds, own, reflected, made, parts, forOwn, forReflected, closed, iff⟩ :=
    declarations_requested Schema.unseen [] requested
  exact ⟨requested, ds, own, reflected, made, parts, forOwn, forReflected, closed, iff.mpr apart⟩

/-- A type of its own that a field is of. -/
def Schema.exposed : Schema where
  types :=
    [{ description := none, name := "Query"
       shape := .object []
        [{ description := none, name := "hidden", arguments := [], type := .named "__Hidden" }] },
      { description := none, name := "__Hidden"
        shape := .object []
         [{ description := none, name := "x", arguments := [], type := .named "Int" }] }]
  roots := { query := some "Query" }
  faultless := by decide +kernel

/-- The identifier that the field is declared with is nowhere introduced. -/
theorem declarations_leave_open :
    let options : Options := { includeIntrospectionTypes := true }
    ∃ settings ds, options.resolve = .ok settings ∧ settings.enumsOnly = false ∧
      declarations Schema.exposed [] settings = .ok ds ∧
      ¬ (ownContext Schema.exposed settings).Resolves (ownTypes Schema.exposed settings) ds := by
  intro options
  let settings := { plainSettings with includeIntrospectionTypes := true }
  have made : declarations Schema.exposed [] settings = .ok
      ((ownDeclarations Schema.exposed settings).1 ++
        reflectDeclarations Schema.exposed settings fun _ => true) := by
    rw [declarations_eq]
    rfl
  have resolved : options.resolve = .ok settings := by
    dsimp only [options]
    rfl
  refine ⟨settings, _, resolved, rfl, made, ?_⟩
  rw [resolves_ownTypes_iff]
  decide +kernel

end GraphTypes
