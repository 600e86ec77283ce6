import GraphTypes.Proofs.Declaration.Identifiers
import GraphTypes.Proofs.Resolver.References

/-!
# Types and resolvers in one file

The resolvers' code can stand below the types that it refers to if the two bind different names.
The names that it claims are unlike the identifiers of all types; the other identifiers that are
declared are derived, and of what the resolvers' code binds only imported names can look like that.
The symbols of the GraphQL runtime are imported without a claim.

So the two can meet in two ways only: a type is declared under one of these symbols, or something
derived is declared under the local name of a reference.
-/

namespace GraphTypes

open Config Name Sdl TypeScript

/-! ### The names of a file -/

/-- The names that the declarations of types bind, with that of the helper above them. -/
def declaredNames (ds : List Declaration) : List String := "Maybe" :: ds.map (·.identifier)

/-- The shared names that are bound at the top level; the others are those of type parameters. -/
def SharedNames.topLevel (n : SharedNames) : List String :=
  [n.resolver, n.subscriptionObject, n.subscriptionResolver, n.typeResolve, n.root]

/-- The names that the resolvers' code binds at the top level: those of its imports, the shared
names, and those of its items. -/
def ResolverModule.boundNames (m : ResolverModule) : List String :=
  m.imports.specifiers.map (·.localName) ++ m.names.topLevel ++ m.items.map (·.name)

theorem ResolverModule.localName_mem_boundNames {m : ResolverModule} {specifier : ImportSpecifier}
    (h : specifier ∈ m.imports.specifiers) : specifier.localName ∈ m.boundNames := by
  rw [boundNames, List.mem_append, List.mem_append]
  exact Or.inl (Or.inl (List.mem_map_of_mem h))

/-! ### What the resolvers' code claims -/

section

variable (s : Schema) (settings : Settings)

/-- Whether a name is none that the declarations of types need for themselves. -/
def IsFresh (name : String) : Prop :=
  name ∉ reservedNames ∧ name ∉ (ownNames s settings).1.identifiers

variable {s settings}

theorem isFresh_available {r : Registry}
    (hsub : (resolverBase (ownNames s settings).1).taken ⊆ r.taken) (base : String) :
    IsFresh s settings (r.available base) := by
  have unused : r.available base ∉ (resolverBase (ownNames s settings).1).taken :=
    fun hmem => r.available_not_mem base (hsub hmem)
  rw [mem_taken_resolverBase, not_or, not_or] at unused
  exact ⟨unused.2.2, unused.2.1⟩

/-- Neither the shared names nor the symbols of the GraphQL runtime look like derived names. -/
theorem not_isDerived_fixed (naming : Convention) {name : String}
    (h : name ∈ SharedNames.usual.toList ++ [resolveInfo, scalarType, scalarTypeConfig]) :
    ¬ isDerived naming name := by
  have plain : ∀ name ∈ SharedNames.usual.toList ++ [resolveInfo, scalarType, scalarTypeConfig],
      (name.toList.head?.any fun c => c != '_' && !c.isDigit) ∧
        ¬ "Args".toList.reverse <+: Registry.stem name := by decide +kernel
  exact not_isDerived_of_head (plain name h).1 (plain name h).2

/-- No introspection type is spelled with an end that the names of items have. -/
theorem not_prefix_stem_metaTypes (naming : Convention) : ∀ t ∈ Introspection.metaTypes,
    ¬ "Resolvers".toList.reverse <+: Registry.stem (naming.apply t.name) ∧
      ¬ "ScalarConfig".toList.reverse <+: Registry.stem (naming.apply t.name) := by
  simp only [stem_apply]
  cases naming <;> decide +kernel

/-- What ends in `Resolvers` or `ScalarConfig` is neither the name of an argument record nor that of
an introspection type, whatever stands in front. -/
theorem not_isDerived_itemName (naming : Convention) (c : ResolverContext) (d : TypeDef) :
    ¬ isDerived naming (c.itemName d) := by
  rw [ResolverContext.itemName]
  split
  · apply not_isDerived_append _ (by decide) (by decide) (by decide)
    exact fun t ht => (not_prefix_stem_metaTypes naming t ht).2
  · apply not_isDerived_append _ (by decide) (by decide) (by decide)
    exact fun t ht => (not_prefix_stem_metaTypes naming t ht).1

/-- A printed specifier is one for the GraphQL runtime, or that of a reference in effect under a
name that nothing else uses. -/
theorem mem_localNames_printedImports {specifier : ImportSpecifier}
    (h : specifier ∈ (printedImports s settings).specifiers) :
    specifier.localName ∈ runtimeSymbols (resolverItems s settings) ∨
      IsFresh s settings specifier.localName ∧ ∃ ref ∈ externalsInEffect s settings,
        (printedImports s settings).localName? ref = some specifier.localName := by
  let key : ExternalRef := ⟨specifier.modulePath, specifier.symbol, ""⟩
  have printed : (printedImports s settings).localName? key = some specifier.localName :=
    Imports.localName?_eq_some_iff.mpr h
  have known := printed
  rw [localName?_printedImports] at known
  split at known
  · next runtime =>
    have same : specifier.symbol = specifier.localName := Option.some.inj known
    exact Or.inl (same ▸ runtime.2)
  · rcases Imports.claimed_of_localName?_addAll known with
      before | ⟨⟨ref, href, same⟩, r', hsub, hl⟩
    · cases before
    · refine Or.inr ⟨?_, ref, href, ?_⟩
      · rw [hl]
        exact isFresh_available (List.Subset.trans (taken_subset_sharedNames s settings) hsub) _
      · rw [← Imports.localName?_congr same.1 same.2, printed]

/-- Of the names that the resolvers' code binds, only the symbols of the GraphQL runtime are not
claimed, and only those of references can be derived. -/
theorem mem_boundNames {name : String} (h : name ∈ (resolverOutput s settings).boundNames) :
    name ∈ runtimeSymbols (resolverItems s settings) ∨
      IsFresh s settings name ∧
        (¬ isDerived settings.typeNaming name ∨ ∃ ref ∈ externalsInEffect s settings,
          (printedImports s settings).localName? ref = some name) := by
  rw [ResolverModule.boundNames, List.mem_append, List.mem_append] at h
  rcases h with (h | h) | h
  · obtain ⟨specifier, hspecifier, rfl⟩ := List.mem_map.mp h
    rcases mem_localNames_printedImports hspecifier with runtime | ⟨fresh, external⟩
    · exact Or.inl runtime
    · exact Or.inr ⟨fresh, Or.inr external⟩
  · have hlist : name ∈ (sharedNames s settings).1.toList := List.mem_of_mem_take (i := 5) h
    rw [sharedNames, SharedNames.toList_claim] at hlist
    obtain ⟨base, hbase, r, hsub, rfl⟩ := Registry.mem_claimAll hlist
    refine Or.inr ⟨isFresh_available hsub base, Or.inl ?_⟩
    rw [isDerived_available]
    exact not_isDerived_fixed settings.typeNaming (List.mem_append_left _ hbase)
  · obtain ⟨item, hitem, rfl⟩ := List.mem_map.mp h
    obtain ⟨d, -, r, hsub, made⟩ := (resolverContext s settings).exists_of_mem_items hitem
    rw [ResolverContext.name_of_item? made]
    have before := List.Subset.trans (taken_subset_claimedImports s settings) hsub
    refine Or.inr ⟨isFresh_available before _, Or.inl ?_⟩
    show ¬ isDerived settings.typeNaming (r.available ((resolverContext s settings).itemName d))
    rw [isDerived_available]
    exact not_isDerived_itemName settings.typeNaming _ d

/-- The symbols of the GraphQL runtime that are needed are bound by their own names. -/
theorem mem_boundNames_of_runtime {symbol : String}
    (h : symbol ∈ runtimeSymbols (resolverItems s settings)) :
    symbol ∈ (resolverOutput s settings).boundNames := by
  have printed : (printedImports s settings).localName? ⟨graphqlModule, symbol, ""⟩ =
      some symbol := by
    rw [localName?_printedImports, if_pos ⟨rfl, h⟩]
  exact ResolverModule.localName_mem_boundNames (Imports.localName?_eq_some_iff.mp printed)

end

/-! ### The result -/

/-- Types and resolvers bind different names exactly if no type of the schema is declared under a
symbol of the GraphQL runtime that the resolvers' code imports, and no argument record or
introspection type under the local name of a reference in effect. -/
theorem disjoint_boundNames_iff {s : Schema} {documents : List Operation.Document}
    {settings : Settings} {ds : List Declaration} {m : ResolverModule}
    (hds : declarations s documents settings = .ok ds) (hm : resolverModule s settings = .ok m) :
    List.Disjoint m.boundNames (declaredNames ds) ↔
      (∀ d ∈ ds, d.isOwnType → d.identifier ∉ runtimeSymbols m.items) ∧
        ∀ ref ∈ externalsInEffect s settings, ∀ localName,
          m.imports.localName? ref = some localName →
            ∀ d ∈ ds, d.isOwnType = false → localName ≠ d.identifier := by
  obtain rfl : resolverOutput s settings = m := by
    rw [resolverModule_eq] at hm
    exact Except.ok.inj hm
  have declared : ∀ d ∈ ds, d.identifier ∈ declaredNames ds := by
    intro d hd
    exact List.mem_cons_of_mem _ (List.mem_map_of_mem hd)
  constructor
  · intro disjoint
    refine ⟨?_, ?_⟩
    · intro d hd _ runtime
      exact disjoint (mem_boundNames_of_runtime runtime) (declared d hd)
    · rintro ref - _ hlocal d hd - rfl
      have bound : d.identifier ∈ (resolverOutput s settings).boundNames :=
        ResolverModule.localName_mem_boundNames (Imports.localName?_eq_some_iff.mp hlocal)
      exact disjoint bound (declared d hd)
  · rintro ⟨ownTypes, derived⟩ name hbound hdeclared
    rcases List.mem_cons.mp hdeclared with rfl | hdeclared
    · -- The helper `Maybe` is a reserved name.
      rcases mem_boundNames hbound with runtime | ⟨fresh, -⟩
      · exact absurd (runtimeSymbols_subset _ runtime) (by decide)
      · exact fresh.1 (by decide)
    · obtain ⟨d, hd, rfl⟩ := List.mem_map.mp hdeclared
      rcases mem_identifiers_or_isDerived hds hd with ⟨own, hidentifier⟩ | ⟨notOwn, hderived⟩
      · -- Identifiers of types are in use before the resolvers' code claims any name.
        rcases mem_boundNames hbound with runtime | ⟨fresh, -⟩
        · exact ownTypes d hd own runtime
        · exact fresh.2 hidentifier
      · -- Against derived names there is no such guard; what is bound has to look different.
        rcases mem_boundNames hbound with runtime | ⟨-, notDerived | ⟨ref, href, hlocal⟩⟩
        · have fixed := List.mem_append_right SharedNames.usual.toList
            (runtimeSymbols_subset _ runtime)
          exact not_isDerived_fixed settings.typeNaming fixed hderived
        · exact notDerived hderived
        · exact derived ref href _ hlocal d hd notOwn rfl

/-- An enum with the name of a symbol of the GraphQL runtime, and a field with an argument. -/
def Schema.crowded : Schema where
  types :=
    [{ description := none, name := "Query"
       shape := .object []
        [{ description := none, name := "user"
           arguments := [{ description := none, name := "id", type := .named "Int" }]
           type := .named "Int" }] },
      { description := none, name := "GraphQLResolveInfo"
        shape := .enum [{ description := none, name := "FULL" }] }]
  roots := { query := some "Query" }
  faultless := by decide +kernel

/-- Names as they are, and a mapper whose symbol has the name of an argument record: the enum meets
the symbol that the resolvers' code imports, and the argument record the mapper. -/
theorem boundNames_meet_declaredNames :
    ∃ settings ds m, Options.resolve
        { namingConvention := some (.uniform "keep")
          mappers := Dictionary.empty.insert "Query" "./models#userQueryArgs" } = .ok settings ∧
      declarations Schema.crowded [] settings = .ok ds ∧
      resolverModule Schema.crowded settings = .ok m ∧
      ∀ name ∈ ["GraphQLResolveInfo", "userQueryArgs"],
        name ∈ m.boundNames ∧ name ∈ declaredNames ds := by
  let mapper : Reference := .external ⟨"./models", "userQueryArgs", ""⟩
  let settings : Settings :=
    { plainSettings with
      typeNaming := .keep
      enumValueNaming := .keep
      mappers := Dictionary.empty.insert "Query" mapper }
  have unused : Introspection.usedTypes Schema.crowded Introspection.metaSchema [] = .ok [] := rfl
  obtain ⟨ds, hds⟩ := exists_declarations Schema.crowded settings unused
  obtain ⟨admits, -, heq⟩ := declarations_eq_ok Schema.crowded settings hds
  have bound : ∀ name ∈ ["GraphQLResolveInfo", "userQueryArgs"],
      name ∈ (resolverOutput Schema.crowded settings).boundNames := by decide +kernel
  have own : ∀ name ∈ ["GraphQLResolveInfo", "userQueryArgs"],
      name ∈ (ownDeclarations Schema.crowded settings).1.map (·.identifier) := by decide +kernel
  refine ⟨settings, ds, resolverOutput Schema.crowded settings, rfl, hds, resolverModule_eq _ _, ?_⟩
  intro name hname
  refine ⟨bound name hname, ?_⟩
  rw [declaredNames, heq, List.map_append]
  exact List.mem_cons_of_mem _ (List.mem_append_left _ (own name hname))

/-- A context whose own name is in use, and no type with the name of a symbol. -/
theorem disjoint_boundNames_library :
    ∃ settings ds m, Options.resolve { contextType := some "./context#Context" } = .ok settings ∧
      declarations Schema.library
        [[.operation .query [.field "__type" [.field "fields" []]]]] settings = .ok ds ∧
      resolverModule Schema.library settings = .ok m ∧
      List.Disjoint m.boundNames (declaredNames ds) := by
  let settings : Settings :=
    { plainSettings with contextType := some (.external ⟨"./context", "Context", ""⟩) }
  have used : Introspection.usedTypes Schema.library Introspection.metaSchema
      [[.operation .query [.field "__type" [.field "fields" []]]]] =
        .ok ["__Type", "__Field"] := by decide +kernel
  obtain ⟨ds, hds⟩ := exists_declarations Schema.library settings used
  have hm := resolverModule_eq Schema.library settings
  refine ⟨settings, ds, _, rfl, hds, hm, (disjoint_boundNames_iff hds hm).mpr ⟨?_, ?_⟩⟩
  · intro d hd own runtime
    have apart : ∀ identifier ∈ (ownNames Schema.library settings).1.identifiers,
        identifier ∉ [resolveInfo, scalarType, scalarTypeConfig] := by decide +kernel
    rcases mem_identifiers_or_isDerived hds hd with ⟨-, hidentifier⟩ | ⟨notOwn, -⟩
    · exact apart _ hidentifier (runtimeSymbols_subset _ runtime)
    · rw [own] at notOwn
      cases notOwn
  · rintro ref href _ hlocal d hd notOwn rfl
    have apart : ∀ ref ∈ externalsInEffect Schema.library settings,
        ((printedImports Schema.library settings).localName? ref).all
          (!isDerived .pascalCase ·) := by decide +kernel
    have plain := apart ref href
    have found : (printedImports Schema.library settings).localName? ref = some d.identifier :=
      hlocal
    rcases mem_identifiers_or_isDerived hds hd with ⟨own, -⟩ | ⟨-, derived⟩
    · rw [notOwn] at own
      cases own
    · have naming : isDerived .pascalCase d.identifier := derived
      rw [found, Option.all_some, naming] at plain
      cases plain

end GraphTypes
