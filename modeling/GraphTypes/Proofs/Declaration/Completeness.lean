import GraphTypes.Proofs.Config.Reference
import GraphTypes.Proofs.Declaration.Identifiers
import GraphTypes.Proofs.Declaration.References

/-!
# The output is complete and in order

`outline` says what an output has for a type: the type, and after an object or an interface the
arguments of each field that takes any. The declarations of a schema follow the outlines of its own
types, then those of the introspection types that are asked for, one declaration for each entry.
So each of these types is declared once, in the order of its schema.
-/

namespace GraphTypes

open Config Name Sdl TypeScript

/-! ### Outlines -/

/-- What an output has for a type, in order. -/
def outline (d : TypeDef) : List Origin :=
  match d.shape with
  | .object _ fields | .interface _ fields =>
    .type d :: (fields.filter (!·.arguments.isEmpty)).map (.arguments d)
  | .scalar | .union _ | .enum _ | .inputObject _ => [.type d]

theorem origins_eq_flatMap (types : List TypeDef) : origins types = types.flatMap outline := by
  apply List.flatMap_congr
  intro d _
  rw [DeclarationContext.fieldsWithArguments, outline, TypeDef.fields]
  cases d.shape <;> rfl

/-- A declaration carries the name and the kind of its type. If it is for a field, it is a record
with a member for each argument, and its name is the one wanted for the record but for a number. -/
def Origin.IsShownBy (c : DeclarationContext) : Origin → Declaration → Prop
  | .type t, d => d.name = t.name ∧ d.kind = .type t.kind
  | .arguments t f, d => d.kind = .arguments ∧
    (∃ r : Registry, d.name = r.available (c.argumentsName t.name f)) ∧
    ∃ members, d.body = .record members ∧ members.map (·.name) = f.arguments.map (·.name)

namespace DeclarationContext

variable (c : DeclarationContext)

theorem forall₂_isShownBy_argumentRecords (t : TypeDef) (fields : List Field) (r : Registry) :
    List.Forall₂ (Origin.IsShownBy c) (fields.map (.arguments t))
      (((r.claimAll (fields.map (c.argumentsName t.name))).1.zip fields).map fun entry =>
        c.declareArguments entry.1 entry.2) := by
  induction fields generalizing r with
  | nil => exact .nil
  | cons f rest ih =>
    refine .cons ⟨rfl, ⟨r, rfl⟩, _, rfl, ?_⟩ (ih _)
    simp [inputMembers, member]

theorem forall₂_isShownBy_declareAll (types : List TypeDef) (r : Registry) :
    List.Forall₂ (Origin.IsShownBy c) (types.flatMap outline) (c.declareAll types r).1 := by
  rw [← origins_eq_flatMap]
  induction types generalizing r with
  | nil => exact .nil
  | cons d rest ih =>
    have records := c.forall₂_isShownBy_argumentRecords d (fieldsWithArguments d) r
    exact .cons ⟨rfl, rfl⟩ (List.rel_append records (ih _))

end DeclarationContext

/-! ### The types that are declared -/

/-- The name of the type that a declaration is for. -/
def Declaration.typeName? (d : Declaration) : Option String :=
  match d.kind with
  | .type _ => some d.name
  | .arguments => none

/-- The name of the type that an entry of an outline is. -/
def Origin.typeName? : Origin → Option String
  | .type t => some t.name
  | .arguments _ _ => none

theorem Origin.IsShownBy.typeName? {c : DeclarationContext} {o : Origin} {d : Declaration}
    (h : o.IsShownBy c d) : d.typeName? = o.typeName? := by
  rw [Declaration.typeName?]
  cases o with
  | type t => rw [h.2, h.1]; rfl
  | arguments t f => rw [h.1]; rfl

theorem filterMap_typeName?_outline (t : TypeDef) :
    (outline t).filterMap Origin.typeName? = [t.name] := by
  have fields : ∀ fs : List Field,
      (fs.map (.arguments t)).filterMap Origin.typeName? = [] := by
    intro fs
    simp [Origin.typeName?]
  rw [outline]
  cases t.shape with
  | object _ own => simp [Origin.typeName?, fields]
  | interface _ own => simp [Origin.typeName?, fields]
  | _ => rfl

/-- The types of the declarations are those of the outlines. -/
theorem filterMap_typeName? {c : DeclarationContext} {types : List TypeDef}
    {ds : List Declaration}
    (h : List.Forall₂ (Origin.IsShownBy c) (types.flatMap outline) ds) :
    ds.filterMap Declaration.typeName? = types.map (·.name) := by
  have aligned : ∀ {os : List Origin} {ds : List Declaration},
      List.Forall₂ (Origin.IsShownBy c) os ds →
        ds.filterMap Declaration.typeName? = os.filterMap Origin.typeName? := by
    intro os ds h
    induction h with
    | nil => rfl
    | cons shown _ ih => rw [List.filterMap_cons, List.filterMap_cons, shown.typeName?, ih]
  rw [aligned h, List.filterMap_flatMap, List.map_eq_flatMap]
  exact List.flatMap_congr fun t _ => filterMap_typeName?_outline t

section

variable {s : Schema} {settings : Settings} (everything : settings.enumsOnly = false)

include everything

theorem declaredTypes_eq_filter (admits : String → Bool) :
    declaredTypes settings admits s =
      s.types.filter fun d => !isBuiltinScalar d.name && admits d.name := by
  simp [declaredTypes, everything]

theorem reflectTypes_eq_filter (admits : String → Bool) :
    reflectTypes settings admits =
      Introspection.metaSchema.types.filter (admits ·.name) := by
  rw [reflectTypes, declaredTypes_eq_filter everything]
  apply List.filter_congr
  intro d hd
  simp [not_isBuiltinScalar_of_mem_metaTypes d hd]

end

/-- The introspection types that an output has: all if the settings say so, otherwise those that
were collected from the documents. -/
inductive Requested (s : Schema) (documents : List Operation.Document) (settings : Settings) :
    List TypeDef → Prop
  | all (h : settings.includeIntrospectionTypes = true) :
    Requested s documents settings Introspection.metaSchema.types
  | collected (h : settings.includeIntrospectionTypes = false) (needed : Introspection.Discovery)
    (hneeded : Introspection.neededTypes s Introspection.metaSchema documents = .ok needed)
    (something : needed.ordered ≠ []) :
    Requested s documents settings
      (Introspection.metaSchema.types.filter (needed.ordered.contains ·.name))
  | nothing (h : settings.includeIntrospectionTypes = false) (needed : Introspection.Discovery)
    (hneeded : Introspection.neededTypes s Introspection.metaSchema documents = .ok needed)
    (empty : needed.ordered = []) : Requested s documents settings []

theorem Introspection.coherent_of_neededTypes {s reflect : Schema}
    {documents : List Operation.Document} {needed : Introspection.Discovery}
    (h : Introspection.neededTypes s reflect documents = .ok needed) : needed.Coherent := by
  rw [Introspection.neededTypes] at h
  obtain ⟨used, -, h⟩ := exists_of_bind_eq_ok h
  cases h
  exact Introspection.Discovery.coherent_empty.explore

theorem requested_reflectTypes {s : Schema} {documents : List Operation.Document}
    {settings : Settings} (everything : settings.enumsOnly = false) {admits : String → Bool}
    (h : admittedIntrospection s documents settings = .ok admits) :
    Requested s documents settings (reflectTypes settings admits) := by
  rw [reflectTypes_eq_filter everything]
  rw [admittedIntrospection] at h
  split at h
  · next all =>
    cases h
    have whole : Introspection.metaSchema.types.filter (fun _ => true) =
        Introspection.metaSchema.types := List.filter_true _
    rw [whole]
    exact .all all
  · next some =>
    obtain ⟨needed, hneeded, h⟩ := exists_of_bind_eq_ok h
    cases h
    have off : settings.includeIntrospectionTypes = false := by simpa using some
    have listed : ∀ d : TypeDef, needed.contains d.name = needed.ordered.contains d.name := by
      intro d
      rw [Bool.eq_iff_iff, List.contains_iff_mem]
      exact ((Introspection.coherent_of_neededTypes hneeded).mem_iff d.name).symm
    rw [List.filter_congr fun d _ => listed d]
    by_cases empty : needed.ordered = []
    · have none : Introspection.metaSchema.types.filter (needed.ordered.contains ·.name) = [] := by
        simp [empty]
      rw [none]
      exact .nothing off needed hneeded empty
    · exact .collected off needed hneeded empty

/-! ### The result -/

/-- The types of a schema that are its own: built-in scalars and names that are reserved for
introspection do not count. -/
def Schema.authored (s : Schema) : List TypeDef :=
  s.types.filter fun d => !isBuiltinScalar d.name && !isReflection d.name

/-- An output of two parts that follow the outlines of the types, one after the other: those of the
schema itself in the one part, those of introspection types in the other. -/
structure FollowsOutlines (s : Schema) (settings : Settings) (requested : List TypeDef)
    (front back : List Declaration) : Prop where
  own : List.Forall₂ (Origin.IsShownBy (ownContext s settings)) (s.authored.flatMap outline) front
  reflected : List.Forall₂ (Origin.IsShownBy (reflectContext s settings))
    (requested.flatMap outline) back
  types : (front ++ back).filterMap Declaration.typeName? = (s.authored ++ requested).map (·.name)
  nodup : ((front ++ back).filterMap Declaration.typeName?).Nodup

/-- Names of the introspection schema are reserved for it, and no authored type has one. -/
theorem nodup_authored_append {s : Schema} {requested : List TypeDef}
    (sub : requested.Sublist Introspection.metaSchema.types) :
    ((s.authored ++ requested).map (·.name)).Nodup := by
  rw [List.map_append, List.nodup_append]
  refine ⟨s.wellFormed.nodup.sublist (List.filter_sublist.map _),
    Introspection.metaSchema.wellFormed.nodup.sublist (sub.map _), ?_⟩
  intro name hown _ hreflected rfl
  obtain ⟨d, hd, rfl⟩ := List.mem_map.mp hown
  obtain ⟨e, he, hname⟩ := List.mem_map.mp hreflected
  have plain := (List.mem_filter.mp hd).2
  have reserved := isReflection_of_mem_metaTypes e (sub.subset he)
  rw [hname] at reserved
  simp [reserved] at plain

/-- Declarations that follow the outlines declare the types of the outlines, each once. -/
theorem FollowsOutlines.of_forall₂ {s : Schema} {settings : Settings} {requested : List TypeDef}
    {front back : List Declaration}
    (own : List.Forall₂ (Origin.IsShownBy (ownContext s settings)) (s.authored.flatMap outline)
      front)
    (reflected : List.Forall₂ (Origin.IsShownBy (reflectContext s settings))
      (requested.flatMap outline) back)
    (sub : requested.Sublist Introspection.metaSchema.types) :
    FollowsOutlines s settings requested front back := by
  have types : (front ++ back).filterMap Declaration.typeName? =
      (s.authored ++ requested).map (·.name) := by
    rw [List.filterMap_append, filterMap_typeName? own, filterMap_typeName? reflected,
      List.map_append]
  refine ⟨own, reflected, types, ?_⟩
  rw [types]
  exact nodup_authored_append sub

/-- Without a restriction to enums, an output has what the outlines of the schema's own types say,
in the order of the schema, and then the same for the introspection types that are requested. No
type is declared twice. -/
theorem declarations_complete {s : Schema} {documents : List Operation.Document}
    {settings : Settings} {ds : List Declaration} (everything : settings.enumsOnly = false)
    (h : declarations s documents settings = .ok ds) :
    ∃ requested front back, Requested s documents settings requested ∧ ds = front ++ back ∧
      FollowsOutlines s settings requested front back := by
  obtain ⟨admits, hadmits, rfl⟩ := declarations_eq_ok s settings h
  have ownTypes_eq : ownTypes s settings = s.authored := declaredTypes_eq_filter everything _
  have own := (ownContext s settings).forall₂_isShownBy_declareAll (ownTypes s settings)
    (reflectNames s settings).2
  have reflected := (reflectContext s settings).forall₂_isShownBy_declareAll
    (reflectTypes settings admits) (ownDeclarations s settings).2
  refine ⟨_, _, _, requested_reflectTypes everything hadmits, rfl, ?_⟩
  apply FollowsOutlines.of_forall₂
  · rw [ownTypes_eq] at own
    rw [ownDeclarations, ownTypes_eq]
    exact own
  · exact reflected
  · exact List.filter_sublist

/-- Types of all kinds, two fields with arguments, and an operation that asks for a type. -/
theorem declarations_complete_library :
    plainSettings.enumsOnly = false ∧
      ∃ ds,
        declarations Schema.library
            [[.operation .query [.field "__type" [.field "fields" []]]]] plainSettings = .ok ds ∧
          ∃ requested front back,
            Requested Schema.library
                [[.operation .query [.field "__type" [.field "fields" []]]]] plainSettings
                requested ∧
              ds = front ++ back ∧
              FollowsOutlines Schema.library plainSettings requested front back := by
  have used : Introspection.usedTypes Schema.library Introspection.metaSchema
      [[.operation .query [.field "__type" [.field "fields" []]]]] =
        .ok ["__Type", "__Field"] := by decide +kernel
  obtain ⟨ds, h⟩ := exists_declarations Schema.library plainSettings used
  exact ⟨rfl, ds, h, declarations_complete rfl h⟩

end GraphTypes
