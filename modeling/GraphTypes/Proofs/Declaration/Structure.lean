import Mathlib.Data.List.Forall2
import GraphTypes.Declaration.OfSchema
import GraphTypes.Proofs.Declaration.TypeNames

/-!
# Where declarations come from

`origins` lists what the declarations for some types are made from: each type, followed by those of
its fields that take arguments. `forall₂_declareAll` says that the declarations stand in the same
order, one for each origin.

A faultless schema has an identifier for every type that it mentions, so nothing but the documents
can keep declarations from being made, and `declarations_eq` gives them in full.
-/

namespace GraphTypes

open Config Name Sdl TypeScript

/-! ### Origins -/

/-- What a declaration is made from: a type, or a field whose arguments it records. -/
inductive Origin where
  | type (d : TypeDef)
  | arguments (owner : TypeDef) (field : Field)

namespace Origin

/-- The references that a declaration of this origin has to write, in order. An interface stands
for the objects that implement it, if there are any. -/
def references (s : Schema) : Origin → List TypeExpr
  | type d =>
    match d.shape with
    | .scalar | .enum _ => []
    | .object _ fields => fields.map (·.type)
    | .interface _ fields =>
      match s.implementations d.name with
      | [] => fields.map (·.type)
      | members => members.map .named
    | .union members => members.map .named
    | .inputObject fields => fields.map (·.type)
  | arguments _ field => field.arguments.map (·.type)

/-- The type that an origin belongs to. -/
def owner : Origin → TypeDef
  | type d => d
  | arguments d _ => d

end Origin

/-- The origins of the declarations of several types, in the order of the declarations. -/
def origins (types : List TypeDef) : List Origin :=
  types.flatMap fun d =>
    .type d :: (DeclarationContext.fieldsWithArguments d).map (.arguments d)

/-- An origin is a type of the list, or a field with arguments of such a type. -/
theorem mem_origins {types : List TypeDef} {o : Origin} :
    o ∈ origins types ↔ ∃ d ∈ types, o = .type d ∨
      ∃ f ∈ d.fields, f.arguments.isEmpty = false ∧ o = .arguments d f := by
  simp only [origins, DeclarationContext.fieldsWithArguments, List.mem_flatMap, List.mem_cons,
    List.mem_map, List.mem_filter, Bool.not_eq_true']
  constructor
  · rintro ⟨d, hd, rfl | ⟨f, ⟨hf, ha⟩, rfl⟩⟩
    · exact ⟨d, hd, Or.inl rfl⟩
    · exact ⟨d, hd, Or.inr ⟨f, hf, ha, rfl⟩⟩
  · rintro ⟨d, hd, rfl | ⟨f, hf, ha, rfl⟩⟩
    · exact ⟨d, hd, Or.inl rfl⟩
    · exact ⟨d, hd, Or.inr ⟨f, ⟨hf, ha⟩, rfl⟩⟩

/-- All that a declaration of a faultless schema refers to is a built-in scalar or declared. -/
theorem Origin.resolves_of_mem_references {s : Schema} {types : List TypeDef} {o : Origin}
    {ref : TypeExpr} (htypes : types ⊆ s.types) (ho : o ∈ origins types)
    (href : ref ∈ o.references s) : Schema.Resolves s.types ref := by
  obtain ⟨d, hd, rfl | ⟨f, hf, -, rfl⟩⟩ := mem_origins.mp ho
  · have sound := s.wellFormed.sound d (htypes hd)
    have declared : ∀ {names : List String}, (∀ m ∈ names, Schema.Declares s.types .object m) →
        ref ∈ names.map .named → Schema.Resolves s.types ref := by
      intro names all hmem
      obtain ⟨m, hm, rfl⟩ := List.mem_map.mp hmem
      obtain ⟨e, he, hname, -⟩ := all m hm
      exact Or.inr ⟨e, he, hname⟩
    have fields := sound.fields
    have inputs := sound.inputs
    have members := sound.members
    unfold TypeDef.fields at fields
    unfold TypeDef.inputFields at inputs
    unfold TypeDef.unionMembers at members
    rw [references] at href
    cases hshape : d.shape with
    | scalar => simp [hshape] at href
    | enum values => simp [hshape] at href
    | object interfaces own =>
      simp only [hshape, List.mem_map] at href fields
      obtain ⟨f, hf, rfl⟩ := href
      exact fields f hf
    | interface interfaces own =>
      simp only [hshape] at href fields
      split at href
      · obtain ⟨f, hf, rfl⟩ := List.mem_map.mp href
        exact fields f hf
      · exact declared (fun m hm => Schema.declares_of_mem_implementations hm) href
    | union names =>
      simp only [hshape] at href members
      exact declared members href
    | inputObject own =>
      simp only [hshape, List.mem_map] at href inputs
      obtain ⟨v, hv, rfl⟩ := href
      exact inputs v hv
  · obtain ⟨a, ha, rfl⟩ := List.mem_map.mp href
    exact (s.wellFormed.sound d (htypes hd)).arguments f hf a ha

namespace DeclarationContext

variable (c : DeclarationContext)

/-! ### Declarations stand in the order of their origins -/

/-- A declaration that is made from an origin; an argument record, under any identifier. -/
inductive Declares : Origin → Declaration → Prop
  | type (d : TypeDef) : Declares (.type d) (c.declare d)
  | arguments (d : TypeDef) (f : Field) (identifier : String) :
    Declares (.arguments d f) (c.declareArguments identifier f)

theorem forall₂_declareArguments (d : TypeDef) {fields : List Field} {identifiers : List String}
    (hlen : identifiers.length = fields.length) :
    List.Forall₂ c.Declares (fields.map (.arguments d))
      ((identifiers.zip fields).map fun entry => c.declareArguments entry.1 entry.2) := by
  induction fields generalizing identifiers with
  | nil =>
    rw [List.zip_nil_right]
    exact .nil
  | cons f rest ih =>
    cases identifiers with
    | nil => cases hlen
    | cons identifier others =>
      exact .cons (.arguments d f identifier) (ih (Nat.succ.inj hlen))

theorem forall₂_argumentRecords (d : TypeDef) (r : Registry) :
    List.Forall₂ c.Declares ((fieldsWithArguments d).map (.arguments d))
      (c.argumentRecords d r).1 := by
  apply c.forall₂_declareArguments d
  rw [Registry.length_claimAll, List.length_map]

theorem forall₂_declareAll (types : List TypeDef) (r : Registry) :
    List.Forall₂ c.Declares (origins types) (c.declareAll types r).1 := by
  induction types generalizing r with
  | nil => exact .nil
  | cons d rest ih =>
    exact .cons (.type d) (List.rel_append (c.forall₂_argumentRecords d r) (ih _))

/-! ### Every mentioned type has an identifier -/

theorem mentionedBy_eq (d : TypeDef) :
    c.mentionedBy d = d.name :: ((Origin.type d).references c.schema).map (·.innermost) := by
  rw [mentionedBy, Origin.references]
  cases d.shape with
  | interface interfaces fields =>
    cases c.schema.implementations d.name <;> simp [Function.comp_def, TypeExpr.innermost]
  | _ => simp [Function.comp_def, TypeExpr.innermost]

/-- What the declarations of types of a faultless schema mention is a built-in scalar or
declared. -/
theorem resolves_of_mem_mentioned {types : List TypeDef} (htypes : types ⊆ c.schema.types)
    {name : String} (h : name ∈ c.mentioned types) :
    isBuiltinScalar name ∨ ∃ d ∈ c.schema.types, d.name = name := by
  rw [mentioned, List.mem_flatMap] at h
  obtain ⟨d, hd, h⟩ := h
  rw [List.mem_append, mentionedBy_eq, List.mem_cons, List.mem_map] at h
  rcases h with (rfl | ⟨ref, href, rfl⟩) | h
  · exact Or.inr ⟨d, htypes hd, rfl⟩
  · exact Origin.resolves_of_mem_references htypes
      (mem_origins.mpr ⟨d, hd, Or.inl rfl⟩) href
  · simp only [mentionedByArguments, fieldsWithArguments, List.mem_flatMap, List.mem_filter,
      List.mem_map] at h
    obtain ⟨f, ⟨hf, -⟩, a, ha, rfl⟩ := h
    exact (c.schema.wellFormed.sound d (htypes hd)).arguments f hf a ha

theorem covers_of_mem_mentioned {naming : Convention} {r : Registry} {types : List TypeDef}
    (hnames : c.names = (TypeNames.assign naming c.schema.types r).1)
    (htypes : types ⊆ c.schema.types) : ∀ type ∈ c.mentioned types, c.names.covers type := by
  intro type htype
  rw [hnames]
  exact TypeNames.covers_assign (c.resolves_of_mem_mentioned htypes htype)

end DeclarationContext

/-! ### All declarations of a schema -/

section Output

variable (s : Schema) (settings : Settings)

/-- The identifiers of the types of a schema, and the names in use after that. -/
def ownNames : TypeNames × Registry :=
  TypeNames.assign settings.typeNaming s.types baseRegistry

/-- The identifiers of the introspection types, which are claimed next. -/
def reflectNames : TypeNames × Registry :=
  TypeNames.assign settings.typeNaming Introspection.metaSchema.types (ownNames s settings).2

/-- What the declarations of a schema's own types are made from. -/
def ownContext : DeclarationContext := ⟨s, (ownNames s settings).1, settings⟩

/-- What the declarations of introspection types are made from. -/
def reflectContext : DeclarationContext :=
  ⟨Introspection.metaSchema, (reflectNames s settings).1, settings⟩

/-- The types of a schema that are declared. -/
def ownTypes : List TypeDef := declaredTypes settings (!isReflection ·) s

/-- The introspection types that are declared. -/
def reflectTypes (admits : String → Bool) : List TypeDef :=
  declaredTypes settings admits Introspection.metaSchema

/-- The declarations of a schema's own types, and the names in use after that. -/
def ownDeclarations : List Declaration × Registry :=
  (ownContext s settings).declareAll (ownTypes s settings) (reflectNames s settings).2

/-- The declarations of introspection types. -/
def reflectDeclarations (admits : String → Bool) : List Declaration :=
  ((reflectContext s settings).declareAll (reflectTypes settings admits)
    (ownDeclarations s settings).2).1

theorem mem_declaredTypes {admits : String → Bool} {d : TypeDef} :
    d ∈ declaredTypes settings admits s ↔
      d ∈ s.types ∧ ¬ isBuiltinScalar d.name ∧ admits d.name ∧
        (settings.enumsOnly → d.kind = .enum) := by
  simp only [declaredTypes, List.mem_filter, Bool.and_eq_true, Bool.not_eq_true', Bool.or_eq_true,
    beq_iff_eq, Bool.not_eq_true, and_assoc]
  cases settings.enumsOnly <;> simp

theorem declaredTypes_subset (admits : String → Bool) :
    declaredTypes settings admits s ⊆ s.types :=
  List.filter_subset_self _

theorem covers_ownContext :
    ∀ type ∈ (ownContext s settings).mentioned (ownTypes s settings),
      (ownContext s settings).names.covers type :=
  (ownContext s settings).covers_of_mem_mentioned rfl (declaredTypes_subset s settings _)

theorem covers_reflectContext (admits : String → Bool) :
    ∀ type ∈ (reflectContext s settings).mentioned (reflectTypes settings admits),
      (reflectContext s settings).names.covers type :=
  (reflectContext s settings).covers_of_mem_mentioned rfl
    (declaredTypes_subset Introspection.metaSchema settings admits)

/-- The declarations of a schema in full. Only the documents can make them fail, namely when the
introspection types that are needed cannot be told. -/
theorem declarations_eq (documents : List Operation.Document) :
    declarations s documents settings =
      (admittedIntrospection s documents settings).map fun admits =>
        (ownDeclarations s settings).1 ++ reflectDeclarations s settings admits := by
  have own : (ownContext s settings).names.requireAll
      ((ownContext s settings).mentioned (ownTypes s settings)) = .ok () :=
    TypeNames.requireAll_eq_ok (covers_ownContext s settings)
  have reflected : ∀ admits, (reflectContext s settings).names.requireAll
      ((reflectContext s settings).mentioned (reflectTypes settings admits)) = .ok () :=
    fun admits => TypeNames.requireAll_eq_ok (covers_reflectContext s settings admits)
  unfold declarations
  cases admittedIntrospection s documents settings with
  | error e => rfl
  | ok admits =>
    show (do
      (ownContext s settings).names.requireAll
        ((ownContext s settings).mentioned (ownTypes s settings))
      (reflectContext s settings).names.requireAll
        ((reflectContext s settings).mentioned (reflectTypes settings admits))
      return (ownDeclarations s settings).1 ++ reflectDeclarations s settings admits) = _
    rw [own, reflected]
    rfl

theorem declarations_eq_ok {documents : List Operation.Document} {ds : List Declaration}
    (h : declarations s documents settings = .ok ds) :
    ∃ admits, admittedIntrospection s documents settings = .ok admits ∧
      ds = (ownDeclarations s settings).1 ++ reflectDeclarations s settings admits := by
  rw [declarations_eq] at h
  cases hadmits : admittedIntrospection s documents settings with
  | error e => rw [hadmits] at h; cases h
  | ok admits =>
    rw [hadmits] at h
    cases h
    exact ⟨admits, rfl, rfl⟩

/-- Whenever the used introspection types can be told, the declarations are made. -/
theorem exists_declarations {documents : List Operation.Document} {used : List String}
    (h : Introspection.usedTypes s Introspection.metaSchema documents = .ok used) :
    ∃ ds, declarations s documents settings = .ok ds := by
  have admitted : ∃ admits, admittedIntrospection s documents settings = .ok admits := by
    unfold admittedIntrospection Introspection.neededTypes
    split
    · exact ⟨_, rfl⟩
    · rw [h]
      exact ⟨_, rfl⟩
  obtain ⟨admits, hadmits⟩ := admitted
  rw [declarations_eq, hadmits]
  exact ⟨_, rfl⟩

end Output

/-- The settings of a configuration that says nothing. -/
def plainSettings : Settings where
  scalars := .empty
  defaultScalarType := "any"
  typeNaming := .pascalCase
  enumValueNaming := .pascalCase
  avoidOptionals := { field := false, inputValue := false, argument := false }
  enumStyle := .native
  immutableTypes := false
  maybeValue := "T | null"
  exported := true
  enumsOnly := false
  includeIntrospectionTypes := false
  mappers := .empty
  defaultMapper := none
  contextType := none

end GraphTypes
