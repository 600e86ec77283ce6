import Mathlib.Data.List.Nodup
import GraphTypes.Proofs.Declaration.Identifiers
import GraphTypes.Proofs.Declaration.References
import GraphTypes.Proofs.Dictionary
import GraphTypes.Proofs.Name.Claims
import GraphTypes.Proofs.Name.Convention

/-!
# Declared identifiers are unique

All identifiers of an output are claimed in one registry: those of the schema's own types, those of
introspection types, then those of the argument records of both. What is declared uses some of the
identifiers of types and all of those of argument records, so no identifier is declared twice and
none of the reserved names is. They are names of GraphQL's form if the names of the schema are.
-/

namespace GraphTypes

open Config Name Sdl

/-- The types of a schema and their fields have GraphQL names. -/
def Schema.HasNames (s : Schema) : Prop :=
  ∀ d ∈ s.types, IsName d.name ∧ ∀ f ∈ d.fields, IsName f.name

instance (s : Schema) : Decidable s.HasNames :=
  inferInstanceAs (Decidable (∀ d ∈ s.types, IsName d.name ∧ ∀ f ∈ d.fields, IsName f.name))

/-! ### Identifiers of types -/

namespace TypeNames

variable (naming : Convention) (types : List TypeDef) (r : Registry)

theorem claims_assign :
    Registry.Claims r (assign naming types r).1.identifiers (assign naming types r).2 := by
  induction types generalizing r with
  | nil => exact .nil r
  | cons d rest ih =>
    rw [assign]
    split
    · exact ih r
    · exact .cons (ih _)

theorem keys_assign : (assign naming types r).1.map Prod.fst =
    (types.filter (!isBuiltinScalar ·.name)).map (·.name) := by
  induction types generalizing r with
  | nil => rfl
  | cons d rest ih =>
    rw [assign]
    by_cases builtin : isBuiltinScalar d.name
    · rw [if_pos builtin, ih, List.filter_cons_of_neg (by simp [builtin])]
    · rw [if_neg builtin, List.filter_cons_of_pos (by simp [builtin])]
      exact congrArg (d.name :: ·) (ih _)

/-- The identifiers in the table are what the types are referred to by. -/
theorem identifiers_assign {types : List TypeDef} (nodup : (types.map (·.name)).Nodup)
    (settings : Settings) :
    (assign naming types r).1.identifiers = (types.filter (!isBuiltinScalar ·.name)).map fun d =>
      (assign naming types r).1.refer settings d.name := by
  have keys := keys_assign naming types r
  have nodupKeys : ((assign naming types r).1.map Prod.fst).Nodup := by
    rw [keys]
    exact nodup.sublist (List.filter_sublist.map _)
  have entries : ∀ entry ∈ (assign naming types r).1,
      entry.2 = (assign naming types r).1.refer settings entry.1 := by
    intro entry hentry
    have key : entry.1 ∈ (assign naming types r).1.map Prod.fst := List.mem_map_of_mem hentry
    rw [keys] at key
    obtain ⟨d, hd, hname⟩ := List.mem_map.mp key
    have builtin : ¬ isBuiltinScalar entry.1 := by
      rw [← hname]
      simpa using (List.mem_filter.mp hd).2
    have found : (assign naming types r).1.identifier? entry.1 = some entry.2 :=
      (Dictionary.lookup_eq_some_iff_of_nodup nodupKeys).mpr hentry
    rw [refer, if_neg builtin, found]
    rfl
  calc (assign naming types r).1.identifiers
    _ = (assign naming types r).1.map fun entry =>
        (assign naming types r).1.refer settings entry.1 := List.map_congr_left entries
    _ = ((assign naming types r).1.map Prod.fst).map
        ((assign naming types r).1.refer settings) := by rw [List.map_map]; rfl
    _ = _ := by rw [keys, List.map_map]; rfl

/-- No two types are referred to by the same identifier. -/
theorem eq_of_refer_eq {types : List TypeDef} (nodup : (types.map (·.name)).Nodup)
    {settings : Settings} {d e : TypeDef} (hd : d ∈ types) (he : e ∈ types)
    (builtin : ¬ isBuiltinScalar d.name) (builtin' : ¬ isBuiltinScalar e.name)
    (same : (assign naming types r).1.refer settings d.name =
      (assign naming types r).1.refer settings e.name) : d = e := by
  have distinct := (claims_assign naming types r).nodup
  rw [identifiers_assign naming r nodup settings] at distinct
  have inFilter : ∀ {t : TypeDef}, t ∈ types → ¬ isBuiltinScalar t.name →
      t ∈ types.filter (!isBuiltinScalar ·.name) := by
    intro t ht plain
    simpa [List.mem_filter, ht] using plain
  exact List.inj_on_of_nodup_map distinct (inFilter hd builtin) (inFilter he builtin') same

end TypeNames

/-! ### Identifiers of declarations -/

namespace DeclarationContext

variable (c : DeclarationContext)

theorem map_identifier_argumentRecords (d : TypeDef) (r : Registry) :
    (c.argumentRecords d r).1.map (·.identifier) =
      (r.claimAll ((fieldsWithArguments d).map (c.argumentsName d.name))).1 := by
  have lengths : (r.claimAll ((fieldsWithArguments d).map (c.argumentsName d.name))).1.length =
      (fieldsWithArguments d).length := by
    rw [Registry.length_claimAll, List.length_map]
  rw [argumentRecords, List.map_map]
  exact List.map_fst_zip (Nat.le_of_eq lengths)

/-- Beside what the types are referred to by, what is declared is what was claimed on the way. -/
theorem claims_declareAll (types : List TypeDef) (r : Registry) :
    ∃ records, Registry.Claims r records (c.declareAll types r).2 ∧
      ((c.declareAll types r).1.map (·.identifier)).Perm
        (types.map (c.refer ·.name) ++ records) := by
  induction types generalizing r with
  | nil => exact ⟨[], .nil r, .nil⟩
  | cons d rest ih =>
    have own := Registry.claims_claimAll r ((fieldsWithArguments d).map (c.argumentsName d.name))
    obtain ⟨others, claims, perm⟩ := ih (c.argumentRecords d r).2
    refine ⟨_, own.append claims, ?_⟩
    calc ((c.declareAll (d :: rest) r).1.map (·.identifier))
      _ = c.refer d.name :: ((c.argumentRecords d r).1.map (·.identifier) ++
          (c.declareAll rest (c.argumentRecords d r).2).1.map (·.identifier)) := by
        rw [← List.map_append]
        rfl
      _ = c.refer d.name :: ((r.claimAll _).1 ++
          (c.declareAll rest (c.argumentRecords d r).2).1.map (·.identifier)) := by
        rw [map_identifier_argumentRecords]
      List.Perm _ (c.refer d.name :: ((r.claimAll _).1 ++ (rest.map (c.refer ·.name) ++ others))) :=
        (perm.append_left _).cons _
      List.Perm _ ((d :: rest).map (c.refer ·.name) ++ ((r.claimAll _).1 ++ others)) :=
        (List.perm_append_comm_assoc _ _ _).cons _

/-! ### The identifiers of a context -/

section Names

variable {c} {naming : Convention} {r : Registry}
  (hnames : c.names = (TypeNames.assign naming c.schema.types r).1)

include hnames

/-- Declared types are referred to by some of the identifiers of their schema, in order. -/
theorem map_refer_declaredTypes (admits : String → Bool) :
    ((declaredTypes c.settings admits c.schema).map (c.refer ·.name)).Sublist
      c.names.identifiers := by
  have identifiers :=
    TypeNames.identifiers_assign naming r c.schema.wellFormed.nodup c.settings
  rw [← hnames] at identifiers
  rw [identifiers]
  have fewer : (declaredTypes c.settings admits c.schema).Sublist
      (c.schema.types.filter (!isBuiltinScalar ·.name)) := by
    apply List.monotone_filter_right
    intro d hd
    rw [Bool.and_eq_true, Bool.and_eq_true] at hd
    exact hd.1.1
  exact fewer.map _

theorem isName_refer (named : ∀ d ∈ c.schema.types, IsName d.name) {t : TypeDef}
    (ht : t ∈ c.schema.types) (builtin : ¬ isBuiltinScalar t.name) : IsName (c.refer t.name) := by
  have entry := mem_names_refer hnames ht builtin
  rw [hnames] at entry
  obtain ⟨d, hd, -, r', hidentifier⟩ := TypeNames.mem_assign entry
  rw [hidentifier]
  exact isName_available r' (Convention.isName_apply (named d hd) naming)

theorem isName_of_mem_declareAll (named : c.schema.HasNames) {admits : String → Bool}
    {r' : Registry} {d : Declaration}
    (h : d ∈ (c.declareAll (declaredTypes c.settings admits c.schema) r').1) :
    IsName d.identifier := by
  have owner : ∀ t ∈ declaredTypes c.settings admits c.schema,
      t ∈ c.schema.types ∧ IsName (c.refer t.name) := by
    intro t ht
    obtain ⟨hmem, builtin, -⟩ := (mem_declaredTypes _ _).mp ht
    exact ⟨hmem, isName_refer hnames (fun d hd => (named d hd).1) hmem builtin⟩
  rcases mem_declareAll h with ⟨t, ht, rfl⟩ | ⟨-, t, ht, f, hf, r'', hidentifier⟩
  · exact (owner t ht).2
  · obtain ⟨hmem, isName⟩ := owner t ht
    have field := Convention.isName_apply ((named t hmem).2 f hf) c.settings.typeNaming
    rw [hidentifier]
    apply isName_available
    exact isName_append (isName_append field isName.2) (by decide)

end Names

end DeclarationContext

/-! ### The result -/

section Output

variable (s : Schema) (settings : Settings)

/-- What is declared under is claimed in one registry: the identifiers of the schema's own types,
whether they are declared or not, and then all that does not belong to one of these. -/
theorem claims_declarations_own (admits : String → Bool) :
    ∃ rest r, Registry.Claims baseRegistry ((ownNames s settings).1.identifiers ++ rest) r ∧
      ∃ others, others.Sublist rest ∧
        (((ownDeclarations s settings).1 ++ reflectDeclarations s settings admits).map
          (·.identifier)).Perm
            ((ownTypes s settings).map ((ownContext s settings).refer ·.name) ++ others) := by
  have own := TypeNames.claims_assign settings.typeNaming s.types baseRegistry
  have reflected := TypeNames.claims_assign settings.typeNaming Introspection.metaSchema.types
    (ownNames s settings).2
  obtain ⟨ownRecords, ownClaims, ownPerm⟩ :=
    (ownContext s settings).claims_declareAll (ownTypes s settings) (reflectNames s settings).2
  obtain ⟨records, claims, perm⟩ := (reflectContext s settings).claims_declareAll
    (reflectTypes settings admits) (ownDeclarations s settings).2
  have names := (reflectContext s settings).map_refer_declaredTypes rfl admits
  refine ⟨_, _, own.append (reflected.append (ownClaims.append claims)), _,
    names.append_right (ownRecords ++ records), ?_⟩
  rw [List.map_append]
  apply (ownPerm.append perm).trans
  rw [List.append_assoc]
  exact (List.perm_append_comm_assoc _ _ _).append_left _

/-- What is declared under is claimed in one registry, in the order of the claims. -/
theorem claims_declarations (admits : String → Bool) :
    ∃ names r, Registry.Claims baseRegistry names r ∧ ∃ declared, declared.Sublist names ∧
      (((ownDeclarations s settings).1 ++ reflectDeclarations s settings admits).map
        (·.identifier)).Perm declared := by
  obtain ⟨rest, r, claims, others, sub, perm⟩ := claims_declarations_own s settings admits
  have own := (ownContext s settings).map_refer_declaredTypes rfl (!isReflection ·)
  exact ⟨_, r, claims, _, own.append sub, perm⟩

variable {s settings}

/-- The identifier of a type of the schema is introduced only if the type is declared. -/
theorem exists_identifier_iff {admits : String → Bool} {t : TypeDef} (ht : t ∈ s.types)
    (builtin : ¬ isBuiltinScalar t.name) :
    (∃ d ∈ (ownDeclarations s settings).1 ++ reflectDeclarations s settings admits,
      d.identifier = (ownContext s settings).refer t.name) ↔ t ∈ ownTypes s settings := by
  constructor
  · rintro ⟨d, hd, hidentifier⟩
    obtain ⟨rest, r, claims, others, sub, perm⟩ := claims_declarations_own s settings admits
    have declared := perm.subset (List.mem_map_of_mem hd)
    rw [hidentifier] at declared
    rcases List.mem_append.mp declared with own | other
    · obtain ⟨e, he, same⟩ := List.mem_map.mp own
      obtain ⟨hmem, plain, -⟩ := (mem_declaredTypes s settings).mp he
      have equal := TypeNames.eq_of_refer_eq settings.typeNaming baseRegistry
        s.wellFormed.nodup hmem ht plain builtin same
      exact equal ▸ he
    · -- What was claimed later differs from all identifiers of the schema's own types.
      have entry := (ownContext s settings).mem_names_refer rfl ht builtin
      have distinct := List.disjoint_of_nodup_append claims.nodup
      exact absurd (sub.subset other) (distinct (List.mem_map_of_mem entry))
  · intro declared
    obtain ⟨d, hd, -, -, hidentifier⟩ := introduces_own declared admits
    exact ⟨d, hd, hidentifier⟩

end Output

theorem hasNames_metaSchema : Introspection.metaSchema.HasNames := by decide +kernel

/-- If the types and fields of a schema have GraphQL names, what is declared for it has names of the
same form; no two of them are equal, and none is reserved. -/
theorem declarations_identifiers {s : Schema} {documents : List Operation.Document}
    {settings : Settings} {ds : List Declaration} (named : s.HasNames)
    (h : declarations s documents settings = .ok ds) :
    (ds.map (·.identifier)).Nodup ∧
      ∀ d ∈ ds, IsName d.identifier ∧ d.identifier ∉ reservedNames := by
  obtain ⟨admits, -, rfl⟩ := declarations_eq_ok s settings h
  obtain ⟨names, r, claims, declared, sub, perm⟩ := claims_declarations s settings admits
  refine ⟨perm.nodup_iff.mpr (claims.nodup.sublist sub), ?_⟩
  intro d hd
  constructor
  · rcases List.mem_append.mp hd with hd | hd
    · exact (ownContext s settings).isName_of_mem_declareAll rfl named hd
    · exact (reflectContext s settings).isName_of_mem_declareAll rfl hasNames_metaSchema hd
  · intro reserved
    have claimed := sub.subset (perm.subset (List.mem_map_of_mem hd))
    exact claims.fresh _ claimed (mem_taken_baseRegistry.mpr reserved)

/-- Types that are spelled alike: like each other, like the arguments of a field, or like a reserved
name. -/
def Schema.homonyms : Schema where
  types :=
    [{ description := none, name := "Query"
       shape := .object []
        [{ description := none, name := "user"
           arguments := [{ description := none, name := "id", type := .named "ID" }]
           type := .named "userQueryArgs" }] },
      { description := none, name := "userQueryArgs", shape := .scalar },
      { description := none, name := "UserQueryArgs", shape := .scalar },
      { description := none, name := "maybe", shape := .scalar }]
  roots := { query := some "Query" }
  faultless := by decide +kernel

theorem declarations_identifiers_homonyms :
    Schema.homonyms.HasNames ∧
      ∃ ds,
        declarations Schema.homonyms [[.operation .query [.field "__schema" []]]] plainSettings =
          .ok ds ∧
        (ds.map (·.identifier)).Nodup ∧
          ∀ d ∈ ds, IsName d.identifier ∧ d.identifier ∉ reservedNames := by
  have named : Schema.homonyms.HasNames := by decide +kernel
  have used : Introspection.usedTypes Schema.homonyms Introspection.metaSchema
      [[.operation .query [.field "__schema" []]]] = .ok ["__Schema"] := by decide +kernel
  obtain ⟨ds, h⟩ := exists_declarations Schema.homonyms plainSettings used
  exact ⟨named, ds, h, declarations_identifiers named h⟩

end GraphTypes
