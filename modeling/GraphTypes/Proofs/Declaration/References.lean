import GraphTypes.Proofs.Declaration.Structure
import GraphTypes.Proofs.Introspection.Closure

/-!
# No reference dangles

Whatever a declaration refers to is declared in the same output, under the identifier that the
reference is written with. For a schema's own types this is the work of its faultlessness: what a
type mentions is declared, and no type of its own is left out. For introspection types it is the
work of the closure: with an object, all that its fields name is needed too.
-/

namespace GraphTypes

open Config Name Sdl TypeScript

/-! ### What a declaration writes -/

/-- What stands for the named type at the heart of a type. -/
def TypeScript.Ty.leafText : Ty → String
  | .leaf text => text
  | .maybe inner => inner.leafText
  | .array _ item => item.leafText

theorem TypeScript.Ty.leafText_orNull (nullable : Bool) (type : Ty) :
    (orNull nullable type).leafText = type.leafText := by
  cases nullable <;> rfl

@[simp] theorem TypeScript.Ty.leafText_ofTypeExpr (readonly : Bool) (leafOf : String → String)
    (type : TypeExpr) : (ofTypeExpr readonly leafOf type).leafText = leafOf type.innermost := by
  have marked : ∀ nullable,
      (ofTypeExprAs readonly leafOf nullable type).leafText = leafOf type.innermost := by
    induction type with
    | named name =>
      intro nullable
      rw [ofTypeExprAs, leafText_orNull]
      rfl
    | list item ih =>
      intro nullable
      rw [ofTypeExprAs, leafText_orNull]
      exact ih true
    | nonNull inner ih =>
      intro nullable
      exact ih false
  exact marked true

/-- What a declaration writes for the types that it refers to, in order. -/
def DeclarationBody.expressions : DeclarationBody → List String
  | .alias _ | .literals _ | .enum _ _ => []
  | .sum members => members
  | .record members => members.map (·.type.leafText)

/-- A declaration writes its references one by one, each as the context refers to the type. -/
theorem DeclarationContext.Declares.expressions_eq {c : DeclarationContext} {o : Origin}
    {d : Declaration} (h : c.Declares o d) :
    d.body.expressions = (o.references c.schema).map fun ref => c.refer ref.innermost := by
  have fields : ∀ fs : List Field, (c.fieldMembers fs).map (·.type.leafText) =
      (fs.map (·.type)).map fun ref => c.refer ref.innermost := by
    intro fs
    simp [fieldMembers, member]
  have inputs : ∀ kind (vs : List InputValue), (c.inputMembers kind vs).map (·.type.leafText) =
      (vs.map (·.type)).map fun ref => c.refer ref.innermost := by
    intro kind vs
    simp [inputMembers, member]
  cases h with
  | arguments t f identifier => exact inputs .argument f.arguments
  | type t =>
    show (c.body t).expressions = _
    rw [body, Origin.references]
    cases t.shape with
    | scalar => rfl
    | enum values => cases c.settings.enumStyle <;> rfl
    | object interfaces fs => exact fields fs
    | interface interfaces fs =>
      cases c.schema.implementations t.name with
      | nil => exact fields fs
      | cons first rest => simp [DeclarationBody.expressions, TypeExpr.innermost]
    | union members => simp [DeclarationBody.expressions, TypeExpr.innermost]
    | inputObject vs => exact inputs .inputValue vs

/-! ### References that lead somewhere -/

/-- One of the declarations is about the type of this name and introduces the identifier. -/
def Introduces (ds : List Declaration) (type identifier : String) : Prop :=
  ∃ d ∈ ds, d.name = type ∧ (∃ kind, d.kind = .type kind) ∧ d.identifier = identifier

/-- The subject of a declaration of this origin: the type itself, or the arguments of a field. -/
def Origin.IsSubjectOf : Origin → Declaration → Prop
  | .type t, d => d.name = t.name ∧ d.kind = .type t.kind
  | .arguments _ _, d => d.kind = .arguments

/-- A declaration is made from its origin, and each reference that it has to write is one to a
built-in scalar or is written as the identifier that `ds` introduces for the type. -/
structure Origin.ClosedIn (s : Schema) (ds : List Declaration) (o : Origin) (d : Declaration) :
    Prop where
  subject : o.IsSubjectOf d
  references : List.Forall₂
    (fun ref expression => isBuiltinScalar ref.innermost ∨ Introduces ds ref.innermost expression)
    (o.references s) d.body.expressions

namespace DeclarationContext

variable (c : DeclarationContext)

theorem Declares.isSubjectOf {c : DeclarationContext} {o : Origin} {d : Declaration}
    (h : c.Declares o d) : o.IsSubjectOf d := by
  cases h with
  | type t => exact ⟨rfl, rfl⟩
  | arguments t f identifier => rfl

theorem introduces_declareAll {types : List TypeDef} {t : TypeDef} (ht : t ∈ types)
    (r : Registry) : Introduces (c.declareAll types r).1 t.name (c.refer t.name) := by
  induction types generalizing r with
  | nil => cases ht
  | cons first rest ih =>
    rcases List.mem_cons.mp ht with rfl | ht
    · exact ⟨c.declare t, List.mem_cons_self, rfl, ⟨t.kind, rfl⟩, rfl⟩
    · obtain ⟨d, hd, found⟩ := ih ht (c.argumentRecords first r).2
      exact ⟨d, List.mem_cons_of_mem _ (List.mem_append_right _ hd), found⟩

/-- If the types that are declared contain all that they refer to, their declarations are closed
in every output that holds them. -/
theorem forall₂_closedIn {types : List TypeDef} {r : Registry} {ds : List Declaration}
    (hds : (c.declareAll types r).1 ⊆ ds)
    (closed : ∀ o ∈ origins types, ∀ ref ∈ o.references c.schema,
      isBuiltinScalar ref.innermost ∨ ∃ t ∈ types, t.name = ref.innermost) :
    List.Forall₂ (Origin.ClosedIn c.schema ds) (origins types) (c.declareAll types r).1 := by
  have made := (List.forall₂_and_left _ _).mpr ⟨closed, c.forall₂_declareAll types r⟩
  apply made.imp
  rintro o d ⟨closed, declares⟩
  refine ⟨declares.isSubjectOf, ?_⟩
  rw [declares.expressions_eq, List.forall₂_map_right_iff, List.forall₂_same]
  intro ref href
  rcases closed ref href with builtin | ⟨t, ht, hname⟩
  · exact Or.inl builtin
  · obtain ⟨d', hd', found⟩ := c.introduces_declareAll ht r
    rw [hname] at found
    exact Or.inr ⟨d', hds hd', found⟩

end DeclarationContext

/-- Types of the schema that are declared are introduced in the whole output. -/
theorem introduces_own {s : Schema} {settings : Settings} {t : TypeDef}
    (ht : t ∈ ownTypes s settings) (admits : String → Bool) :
    Introduces ((ownDeclarations s settings).1 ++ reflectDeclarations s settings admits) t.name
      ((ownContext s settings).refer t.name) := by
  obtain ⟨d, hd, found⟩ :=
    (ownContext s settings).introduces_declareAll ht (reflectNames s settings).2
  exact ⟨d, List.mem_append_left _ hd, found⟩

/-! ### What the declared types refer to is declared -/

theorem Sdl.TypeDef.fields_of_enum {d : TypeDef} (enum : d.kind = .enum) : d.fields = [] := by
  have kind : d.shape.kind = .enum := enum
  rw [fields]
  cases hshape : d.shape <;> simp_all [Shape.kind]

/-- Enums refer to nothing. -/
theorem Origin.not_mem_references_of_enum {s : Schema} {types : List TypeDef} {o : Origin}
    (ho : o ∈ origins types) (enum : o.owner.kind = .enum) (ref : TypeExpr) :
    ref ∉ o.references s := by
  obtain ⟨d, -, rfl | ⟨f, hf, -, rfl⟩⟩ := mem_origins.mp ho
  · have kind : d.shape.kind = .enum := enum
    rw [references]
    cases hshape : d.shape <;> simp_all [Shape.kind]
  · have none : d.fields = [] := TypeDef.fields_of_enum enum
    rw [none] at hf
    cases hf

theorem Origin.owner_mem {types : List TypeDef} {o : Origin} (ho : o ∈ origins types) :
    o.owner ∈ types := by
  obtain ⟨d, hd, rfl | ⟨f, -, -, rfl⟩⟩ := mem_origins.mp ho <;> exact hd

/-- Types of a schema that are declared refer to declared types only, if every type that they refer
to is admitted. -/
theorem closed_declaredTypes {s : Schema} {settings : Settings} {admits : String → Bool}
    (admitted : ∀ o ∈ origins (declaredTypes settings admits s), ∀ ref ∈ o.references s,
      ¬ isBuiltinScalar ref.innermost → admits ref.innermost) :
    ∀ o ∈ origins (declaredTypes settings admits s), ∀ ref ∈ o.references s,
      isBuiltinScalar ref.innermost ∨
        ∃ t ∈ declaredTypes settings admits s, t.name = ref.innermost := by
  intro o ho ref href
  by_cases builtin : isBuiltinScalar ref.innermost
  · exact Or.inl builtin
  · have sub := declaredTypes_subset s settings admits
    rcases Origin.resolves_of_mem_references sub ho href with h | ⟨t, ht, hname⟩
    · exact absurd h builtin
    · have owner := (mem_declaredTypes s settings).mp (Origin.owner_mem ho)
      refine Or.inr ⟨t, (mem_declaredTypes s settings).mpr ?_, hname⟩
      refine ⟨ht, hname ▸ builtin, hname ▸ admitted o ho ref href builtin, ?_⟩
      -- If enums alone are declared, there is no reference to speak of.
      intro only
      exact absurd href (Origin.not_mem_references_of_enum ho (owner.2.2.2 only) ref)

/-! ### The introspection part -/

theorem admittedIntrospection_eq_ok {s : Schema} {documents : List Operation.Document}
    {settings : Settings} {admits : String → Bool}
    (h : admittedIntrospection s documents settings = .ok admits) :
    (∀ name, admits name) ∨ ∃ used,
      admits = (Introspection.explore Introspection.metaSchema used {}).contains := by
  unfold admittedIntrospection at h
  split at h
  · cases h
    exact Or.inl fun _ => rfl
  · unfold Introspection.neededTypes at h
    cases hused : Introspection.usedTypes s Introspection.metaSchema documents with
    | error e => rw [hused] at h; cases h
    | ok used =>
      rw [hused] at h
      cases h
      exact Or.inr ⟨used, rfl⟩

/-- The introspection schema has objects and enums only, and their arguments are of built-in
scalars. -/
theorem kind_of_mem_metaTypes : ∀ d ∈ Introspection.metaSchema.types,
    (d.kind = .object ∨ d.kind = .enum) ∧
      ∀ f ∈ d.fields, ∀ a ∈ f.arguments, isBuiltinScalar a.type.innermost := by
  decide +kernel

theorem references_eq_of_object {s : Schema} {d : TypeDef} (h : d.kind = .object) :
    (Origin.type d).references s = d.fields.map (·.type) := by
  have kind : d.shape.kind = .object := h
  rw [Origin.references, TypeDef.fields]
  cases hshape : d.shape <;> simp_all [Shape.kind]

/-- With an introspection type everything is admitted that it refers to. -/
theorem admits_references {s : Schema} {documents : List Operation.Document} {settings : Settings}
    {admits : String → Bool} (h : admittedIntrospection s documents settings = .ok admits) :
    ∀ o ∈ origins (reflectTypes settings admits),
      ∀ ref ∈ o.references Introspection.metaSchema,
        ¬ isBuiltinScalar ref.innermost → admits ref.innermost := by
  intro o ho ref href builtin
  rcases admittedIntrospection_eq_ok h with all | ⟨used, rfl⟩
  · exact all _
  · obtain ⟨d, hd, rfl | ⟨f, hf, -, rfl⟩⟩ := mem_origins.mp ho
    · obtain ⟨hmem, -, needed, -⟩ := (mem_declaredTypes _ settings).mp hd
      rcases (kind_of_mem_metaTypes d hmem).1 with object | enum
      · have closed := (Introspection.isLeast_explore Introspection.metaSchema used).1
        rw [references_eq_of_object object, List.mem_map] at href
        obtain ⟨f, hf, rfl⟩ := href
        have declared := (Introspection.metaSchema.wellFormed.sound d hmem).fields f hf
        have contained : Introspection.metaSchema.contains f.type.innermost :=
          Schema.contains_iff.mpr (declared.resolve_left builtin)
        exact closed.field_mem needed (Schema.get?_of_mem hmem) object hf contained
      · exact absurd href (Origin.not_mem_references_of_enum ho enum ref)
    · obtain ⟨hmem, -⟩ := (mem_declaredTypes _ settings).mp hd
      obtain ⟨a, ha, rfl⟩ := List.mem_map.mp href
      exact absurd ((kind_of_mem_metaTypes d hmem).2 f hf a ha) builtin

/-! ### The result -/

/-- The output is closed: its declarations stand one for each origin, first those of the schema's
own types, then those of introspection types, and what each of them refers to is a built-in scalar
or is declared in the output under the identifier that the reference is written with. -/
theorem declarations_closed {s : Schema} {documents : List Operation.Document}
    {settings : Settings} {ds : List Declaration}
    (authored : ∀ d ∈ s.types, ¬ isReflection d.name)
    (h : declarations s documents settings = .ok ds) :
    ∃ admits own reflected, admittedIntrospection s documents settings = .ok admits ∧
      ds = own ++ reflected ∧
      List.Forall₂ (Origin.ClosedIn s ds) (origins (ownTypes s settings)) own ∧
      List.Forall₂ (Origin.ClosedIn Introspection.metaSchema ds)
        (origins (reflectTypes settings admits)) reflected := by
  obtain ⟨admits, hadmits, rfl⟩ := declarations_eq_ok s settings h
  refine ⟨admits, _, _, hadmits, rfl, ?_, ?_⟩
  · apply (ownContext s settings).forall₂_closedIn (List.subset_append_left _ _)
    apply closed_declaredTypes
    intro o ho ref href builtin
    rcases Origin.resolves_of_mem_references (declaredTypes_subset s settings _) ho href with
      h | ⟨t, ht, hname⟩
    · exact absurd h builtin
    · simpa [hname] using authored t ht
  · apply (reflectContext s settings).forall₂_closedIn (List.subset_append_right _ _)
    exact closed_declaredTypes (admits_references hadmits)

/-- Every kind of type, and an operation that asks for the fields of a type. -/
theorem declarations_closed_library :
    (∀ d ∈ Schema.library.types, ¬ isReflection d.name) ∧
      ∃ ds,
        declarations Schema.library
            [[.operation .query [.field "__type" [.field "fields" []]]]] plainSettings = .ok ds ∧
          ∃ admits own reflected,
            admittedIntrospection Schema.library
                [[.operation .query [.field "__type" [.field "fields" []]]]] plainSettings =
              .ok admits ∧
            ds = own ++ reflected ∧
            List.Forall₂ (Origin.ClosedIn Schema.library ds)
              (origins (ownTypes Schema.library plainSettings)) own ∧
            List.Forall₂ (Origin.ClosedIn Introspection.metaSchema ds)
              (origins (reflectTypes plainSettings admits)) reflected := by
  have authored : ∀ d ∈ Schema.library.types, ¬ isReflection d.name := by decide +kernel
  have used : Introspection.usedTypes Schema.library Introspection.metaSchema
      [[.operation .query [.field "__type" [.field "fields" []]]]] =
        .ok ["__Type", "__Field"] := by decide +kernel
  obtain ⟨ds, h⟩ := exists_declarations Schema.library plainSettings used
  exact ⟨authored, ds, h, declarations_closed authored h⟩

end GraphTypes
