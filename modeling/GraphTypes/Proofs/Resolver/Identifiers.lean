import GraphTypes.Proofs.Resolver.Layout
import GraphTypes.Proofs.SelfContained

/-!
# Identifiers are stable, and both kinds of code share them

The identifiers of a schema's types are claimed before anything else, in the order of declaration.
So types that are added behind the others take no identifier away (`identifier?_assign_append`), and
whatever is claimed afterwards comes too late to take one: identifiers of introspection types and of
argument records where types are declared, helpers, imports and namespaces where resolvers are. What
a type is declared under is therefore what the resolvers' code is written with
(`expressions_eq_writtenBy`).
-/

namespace GraphTypes

open Config Name Sdl TypeScript

/-! ### Types that are added behind the others -/

namespace TypeNames

variable (naming : Convention) (types more : List TypeDef) (r : Registry)

/-- Identifiers are handed out from the front. -/
theorem assign_append :
    assign naming (types ++ more) r =
      ((assign naming types r).1 ++ (assign naming more (assign naming types r).2).1,
        (assign naming more (assign naming types r).2).2) := by
  induction types generalizing r with
  | nil => rfl
  | cons d rest ih =>
    rw [List.cons_append, assign, assign]
    split
    · exact ih r
    · simp only [ih]
      rfl

theorem identifier?_of_isBuiltinScalar {type : String} (builtin : isBuiltinScalar type) :
    (assign naming types r).1.identifier? type = none := by
  cases found : (assign naming types r).1.identifier? type with
  | none => rfl
  | some identifier =>
    have key : type ∈ (assign naming types r).1.map Prod.fst :=
      List.mem_map_of_mem (mem_of_identifier? found)
    rw [keys_assign] at key
    obtain ⟨d, hd, rfl⟩ := List.mem_map.mp key
    simp [builtin] at hd

/-- Whether or not a type gets an identifier, further types behind it change nothing. -/
theorem identifier?_assign_append {d : TypeDef} (hd : d ∈ types) :
    (assign naming (types ++ more) r).1.identifier? d.name =
      (assign naming types r).1.identifier? d.name := by
  by_cases builtin : isBuiltinScalar d.name
  · rw [identifier?_of_isBuiltinScalar _ _ _ builtin, identifier?_of_isBuiltinScalar _ _ _ builtin]
  · have assigned : ((assign naming types r).1.identifier? d.name).isSome :=
      isSome_identifier?_assign hd builtin
    obtain ⟨identifier, found⟩ := Option.isSome_iff_exists.mp assigned
    rw [assign_append, found]
    rw [identifier?] at found
    rw [identifier?, List.lookup_append, found]
    rfl

end TypeNames

/-! ### What types are declared under -/

/-- A type of the schema itself is declared under an identifier. -/
def DeclaredUnder (ds : List Declaration) (type identifier : String) : Prop :=
  ∃ e ∈ ds, e.isOwnType ∧ e.name = type ∧ e.identifier = identifier

section Output

variable {s : Schema} {settings : Settings}

theorem declaredUnder_iff {admits : String → Bool} {type identifier : String} :
    DeclaredUnder ((ownDeclarations s settings).1 ++ reflectDeclarations s settings admits) type
        identifier ↔
      ∃ t ∈ ownTypes s settings, t.name = type ∧
        identifier = (ownContext s settings).refer t.name := by
  constructor
  · rintro ⟨e, he, own, rfl, rfl⟩
    have noRecord : e.kind ≠ .arguments := by
      intro record
      simp [Declaration.isOwnType, record] at own
    rcases List.mem_append.mp he with he | he
    · rcases DeclarationContext.mem_declareAll he with ⟨t, ht, rfl⟩ | ⟨record, -⟩
      · exact ⟨t, ht, rfl, rfl⟩
      · exact absurd record noRecord
    · rcases DeclarationContext.mem_declareAll he with ⟨t, ht, rfl⟩ | ⟨record, -⟩
      · have reflected := isReflection_of_mem_metaTypes t (declaredTypes_subset _ settings _ ht)
        simp [Declaration.isOwnType, DeclarationContext.declare, reflected] at own
      · exact absurd record noRecord
  · rintro ⟨t, ht, rfl, rfl⟩
    obtain ⟨e, he, hname, ⟨kind, hkind⟩, hidentifier⟩ := introduces_own ht admits
    have own : isReflection t.name = false := by
      simpa using ((mem_declaredTypes s settings).mp ht).2.2.1
    exact ⟨e, he, by simp [Declaration.isOwnType, hkind, hname, own], hname, hidentifier⟩

/-- A type of the schema is declared under what refers to it, and under nothing else. -/
theorem declaredUnder_iff_of_mem {admits : String → Bool} {d : TypeDef} (hd : d ∈ s.types)
    {identifier : String} :
    DeclaredUnder ((ownDeclarations s settings).1 ++ reflectDeclarations s settings admits) d.name
        identifier ↔
      d ∈ ownTypes s settings ∧ identifier = (ownContext s settings).refer d.name := by
  rw [declaredUnder_iff]
  constructor
  · rintro ⟨t, ht, hname, rfl⟩
    have same : t = d :=
      List.inj_on_of_nodup_map s.wellFormed.nodup (declaredTypes_subset s settings _ ht) hd hname
    exact ⟨same ▸ ht, by rw [hname]⟩
  · rintro ⟨declared, rfl⟩
    exact ⟨d, declared, rfl, rfl⟩

theorem DeclaredUnder.eq_refer {admits : String → Bool} {type identifier : String}
    (h : DeclaredUnder ((ownDeclarations s settings).1 ++ reflectDeclarations s settings admits)
      type identifier) : identifier = (ownContext s settings).refer type := by
  obtain ⟨t, -, rfl, rfl⟩ := declaredUnder_iff.mp h
  rfl

end Output

/-! ### Where resolvers mention types -/

/-- The places at which the resolvers' code mentions a type: as what the resolvers belong to, as
what they yield, and where nothing ever replaces it. -/
inductive Place where
  | parent
  | result
  | plain

/-- The types that are mentioned in what is declared for the resolvers of a type, in order. -/
def Schema.mentions (s : Schema) (d : TypeDef) : List (Place × String) :=
  match d.shape with
  | .object _ fields =>
    (.parent, d.name) :: fields.flatMap fun f =>
      (.result, f.type.innermost) :: f.arguments.map fun a => (.plain, a.type.innermost)
  | .interface .. | .union _ => (s.possibleTypes d).map fun member => (.parent, member)
  | .scalar => [(.plain, d.name)]
  | .enum _ | .inputObject _ => []

section Resolvers

variable (s : Schema) (settings : Settings)

/-- What stands for a type that goes by an identifier: if a reference replaces the type, the
expression of that, with the identifier filled in. -/
def standIn (type identifier : String) : String :=
  match replacement? s settings type with
  | some reference => (claimedImports s settings).1.expression reference identifier
  | none => identifier

/-- What is written at a place for a type that goes by an identifier. -/
def writtenBy (type identifier : String) : Place → String
  | .plain => identifier
  | .result => standIn s settings type identifier
  | .parent =>
    if s.isRoot type && !settings.mappers.contains type then "\x7b\x7d"
    else standIn s settings type identifier

theorem expressions_fieldResolvers (fields : List Field) (scope : Registry) :
    ((resolverContext s settings).fieldResolvers fields scope).flatMap (·.expressions) =
      fields.flatMap fun f =>
        (resolverContext s settings).mapped f.type.innermost ::
          f.arguments.map fun a => (resolverContext s settings).refer a.type.innermost := by
  induction fields generalizing scope with
  | nil => rfl
  | cons f rest ih =>
    rw [ResolverContext.fieldResolvers]
    dsimp only
    rw [List.flatMap_cons, ih, ResolverContext.expressions_fieldResolver, List.flatMap_cons]

/-- Each place is written with the identifier of the type, in the order of the mentions. -/
theorem expressions_eq_writtenBy {d : TypeDef} {name : String} {r : Registry} {item : ResolverItem}
    (made : (resolverContext s settings).item? d name r = some item) :
    item.expressions = (s.mentions d).map fun mention =>
      writtenBy s settings mention.2 ((ownContext s settings).refer mention.2) mention.1 := by
  rw [ResolverContext.item?] at made
  rw [Schema.mentions, Schema.possibleTypes]
  cases hshape : d.shape with
  | object interfaces fields =>
    have hfields : d.fields = fields := by rw [TypeDef.fields, hshape]
    rw [hshape] at made
    cases made
    show (resolverContext s settings).parentOf d.name ::
      ((resolverContext s settings).fieldResolvers d.fields _).flatMap (·.expressions) = _
    rw [expressions_fieldResolvers, hfields]
    simp only [List.map_cons, List.map_flatMap, List.map_map]
    rfl
  | interface interfaces fields =>
    rw [hshape] at made
    cases made
    rw [ResolverContext.expressions_abstractNamespace, List.map_map]
    rfl
  | union members =>
    rw [hshape] at made
    cases made
    rw [ResolverContext.expressions_abstractNamespace, List.map_map]
    rfl
  | scalar =>
    rw [hshape] at made
    cases made
    rfl
  | enum values => rw [hshape] at made; cases made
  | inputObject fields => rw [hshape] at made; cases made

end Resolvers

/-! ### The result -/

/-- What is declared for the resolvers of a type is written with the identifiers that types are
declared under: its own name at the top level, and whatever it mentions. -/
structure ResolverItem.RefersBy (s : Schema) (settings : Settings) (ds : List Declaration)
    (d : TypeDef) (item : ResolverItem) : Prop where
  type : item.type = d.name
  name : ∀ identifier, DeclaredUnder ds d.name identifier → ∃ r : Registry,
    item.name =
      r.available (identifier ++ if d.kind = .scalar then "ScalarConfig" else "Resolvers")
  mentions : List.Forall₂
    (fun mention text => ∀ identifier, DeclaredUnder ds mention.2 identifier →
      text = writtenBy s settings mention.2 identifier mention.1)
    (s.mentions d) item.expressions

/-- The types that are declared have one identifier each, and the resolvers' code refers to them by
that. -/
structure SharesIdentifiers (s : Schema) (settings : Settings) (ds : List Declaration)
    (m : ResolverModule) : Prop where
  declared : ∀ d ∈ ownTypes s settings,
    ∃ identifier, ∀ other, DeclaredUnder ds d.name other ↔ other = identifier
  refers : List.Forall₂ (ResolverItem.RefersBy s settings ds)
    ((resolverTypes s).filter ResolverContext.hasItem) m.items
  occurs : ∀ item ∈ m.items, ∀ text ∈ item.expressions,
    Occurs text (String.intercalate "\n\n" (m.sources settings.exportMark))

section Output

variable {s : Schema} {settings : Settings}

theorem sharesIdentifiers (admits : String → Bool) :
    SharesIdentifiers s settings
      ((ownDeclarations s settings).1 ++ reflectDeclarations s settings admits)
      (resolverOutput s settings) where
  declared d hd := by
    refine ⟨_, fun other => ⟨DeclaredUnder.eq_refer, ?_⟩⟩
    rintro rfl
    exact declaredUnder_iff.mpr ⟨d, hd, rfl, rfl⟩
  refers := by
    apply forall₂_resolverItems
    intro d _ item _ r claimed found
    refine ⟨type_of_item? found, ?_, ?_⟩
    · intro identifier under
      rw [under.eq_refer, ResolverContext.name_of_item? found]
      exact ⟨r, rfl⟩
    · rw [expressions_eq_writtenBy s settings found, List.forall₂_map_right_iff, List.forall₂_same]
      intro mention _ identifier under
      rw [under.eq_refer]
  occurs item hitem text htext :=
    (ResolverItem.occurs_expression htext).trans (ResolverModule.occurs_item hitem)

end Output

section Extended

variable {s s' : Schema} {more : List TypeDef} (extended : s'.types = s.types ++ more)
  (settings : Settings) {d : TypeDef} (hd : d ∈ s.types)

include extended hd

theorem identifier?_extended :
    (ownNames s' settings).1.identifier? d.name = (ownNames s settings).1.identifier? d.name := by
  rw [ownNames, ownNames, extended]
  exact TypeNames.identifier?_assign_append settings.typeNaming s.types more baseRegistry hd

/-- Types in front of others are declared under the same identifiers without these, whatever the
documents are. -/
theorem declaredUnder_extended {admits admits' : String → Bool} {identifier : String} :
    DeclaredUnder ((ownDeclarations s settings).1 ++ reflectDeclarations s settings admits) d.name
        identifier ↔
      DeclaredUnder ((ownDeclarations s' settings).1 ++ reflectDeclarations s' settings admits')
        d.name identifier := by
  have hd' : d ∈ s'.types := by
    rw [extended]
    exact List.mem_append_left more hd
  have refer : (ownContext s settings).refer d.name = (ownContext s' settings).refer d.name := by
    show (ownNames s settings).1.refer settings d.name =
      (ownNames s' settings).1.refer settings d.name
    rw [TypeNames.refer, TypeNames.refer, identifier?_extended extended settings hd]
  rw [declaredUnder_iff_of_mem hd, declaredUnder_iff_of_mem hd', refer, ownTypes, ownTypes,
    mem_declaredTypes, mem_declaredTypes]
  simp only [hd, hd', true_and]

end Extended

/-- The types of a schema keep their identifiers if further types are declared behind them: in the
table that these are looked up in, and in whatever is declared for either schema and any documents.
And what a type is declared under is what the code for the resolvers of the same schema refers to it
by. -/
theorem identifiers_stable_and_shared (s : Schema) (settings : Settings) :
    (∀ (s' : Schema) more, s'.types = s.types ++ more →
      (∀ d ∈ s.types, (ownNames s' settings).1.identifier? d.name =
        (ownNames s settings).1.identifier? d.name) ∧
      ∀ documents documents' ds ds', declarations s documents settings = .ok ds →
        declarations s' documents' settings = .ok ds' → ∀ d ∈ s.types, ∀ identifier,
          DeclaredUnder ds d.name identifier ↔ DeclaredUnder ds' d.name identifier) ∧
    ∀ documents ds, declarations s documents settings = .ok ds →
      ∃ m, resolverModule s settings = .ok m ∧ SharesIdentifiers s settings ds m := by
  constructor
  · intro s' more extended
    refine ⟨fun d hd => identifier?_extended extended settings hd, ?_⟩
    intro documents documents' ds ds' h h' d hd identifier
    obtain ⟨admits, -, rfl⟩ := declarations_eq_ok s settings h
    obtain ⟨admits', -, rfl⟩ := declarations_eq_ok s' settings h'
    exact declaredUnder_extended extended settings hd
  · intro documents ds h
    obtain ⟨admits, -, rfl⟩ := declarations_eq_ok s settings h
    exact ⟨resolverOutput s settings, resolverModule_eq s settings, sharesIdentifiers admits⟩

/-- The library with two more types, which would like the identifiers of others: of a type, and of
an argument record. -/
def Schema.extendedLibrary : Schema where
  types := library.types ++
    [{ description := none, name := "book", shape := .scalar },
      { description := none, name := "SearchQueryArgs", shape := .scalar }]
  roots := library.roots
  faultless := by decide +kernel

/-- Against different documents, with a mapper that is written with the identifier it replaces. -/
theorem identifiers_stable_and_shared_library :
    let settings :=
      { plainSettings with mappers := Dictionary.empty.insert "Book" (.inline "Model<\x7bT\x7d>") }
    ∃ ds ds' m,
      declarations Schema.library [] settings = .ok ds ∧
      declarations Schema.extendedLibrary [[.operation .query [.field "__schema" []]]] settings =
        .ok ds' ∧
      (∀ d ∈ Schema.library.types, ∀ identifier,
        DeclaredUnder ds d.name identifier ↔ DeclaredUnder ds' d.name identifier) ∧
      resolverModule Schema.library settings = .ok m ∧
      SharesIdentifiers Schema.library settings ds m := by
  intro settings
  have used : Introspection.usedTypes Schema.library Introspection.metaSchema [] = .ok [] := rfl
  have used' : Introspection.usedTypes Schema.extendedLibrary Introspection.metaSchema
      [[.operation .query [.field "__schema" []]]] = .ok ["__Schema"] := by decide +kernel
  obtain ⟨ds, h⟩ := exists_declarations Schema.library settings used
  obtain ⟨ds', h'⟩ := exists_declarations Schema.extendedLibrary settings used'
  obtain ⟨stable, shared⟩ := identifiers_stable_and_shared Schema.library settings
  obtain ⟨m, made, shares⟩ := shared [] ds h
  exact ⟨ds, ds', m, h, h', (stable Schema.extendedLibrary _ rfl).2 _ _ ds ds' h h', made, shares⟩

end GraphTypes
