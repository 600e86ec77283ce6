import GraphTypes.Proofs.Resolver.ReadBack

/-!
# References are imported under the names they are written with

The name that a reference is imported under is read off the lines at the top of the resolvers' code,
the name that it is written with off the expressions below them. A reference claims the one and is
written with it, but the symbols of the GraphQL runtime are entered over what was claimed. So the two
agree unless the reference is itself to one of these symbols.
-/

namespace GraphTypes

open Config Name Sdl TypeScript

/-- All specifiers of the import table can be read off the lines that are printed. -/
theorem readLines?_printedImports {s : Schema} {settings : Settings}
    (wellFormed : settings.WellFormed) :
    readLines? (printedImports s settings).lines =
      some (resolverOutput s settings).imports.specifiers := by
  apply readLines?_lines
  intro line hline
  exact ⟨isOccupied_printedImports line hline, areIdentifiers_of_mem wellFormed hline⟩

/-- The import lines are read as the specifiers of the import table, and every reference in effect
is imported by a single one of them. Its local name is what all expressions for the reference begin
with, unless there are such expressions and the reference is to a symbol of the GraphQL runtime that
the resolvers' code imports for itself. -/
theorem imported_as_written {options : Options} {settings : Settings}
    (h : options.resolve = .ok settings) (s : Schema) (documents : List Operation.Document) :
    ∃ m output, resolverModule s settings = .ok m ∧
      Generator.run s documents options .resolvers = .ok output ∧
      readLines? output.preamble = some m.imports.specifiers ∧
      ∀ ref ∈ externalsInEffect s settings, ∃ localName,
        m.imports.specifiers.filter (·.imports ref) =
            [⟨ref.modulePath, ref.symbol, localName⟩] ∧
          ((∀ expression, m.Writes s settings ref expression →
              Imports.leadingName expression = localName) ↔
            (ref.modulePath = graphqlModule → ref.symbol ∈ runtimeSymbols m.items →
              ∀ expression, ¬ m.Writes s settings ref expression)) := by
  have accepted := Options.wellFormed_of_resolve h
  refine ⟨resolverOutput s settings, _, resolverModule_eq s settings,
    Generator.runResolvers_eq s (Options.settings_eq_ok_iff.mpr h),
    readLines?_printedImports accepted, ?_⟩
  intro ref href
  have wellFormed := wellFormed_of_mem_externalsInEffect accepted href
  obtain ⟨claimed, hclaimed⟩ := exists_localName?_claimedImports s settings href
  have hname := isName_of_localName?_claimedImports s settings wellFormed hclaimed
  have written : ∀ expression, (resolverOutput s settings).Writes s settings ref expression →
      Imports.leadingName expression = claimed :=
    fun expression => leadingName_of_writes wellFormed hname hclaimed
  have printed := localName?_printedImports s settings ref
  by_cases runtime : ref.modulePath = graphqlModule ∧
      ref.symbol ∈ runtimeSymbols (resolverItems s settings)
  · rw [if_pos runtime] at printed
    refine ⟨ref.symbol, Imports.filter_specifiers printed, ?_⟩
    have differs : claimed ≠ ref.symbol := claimed_ne_runtime hclaimed runtime.2
    constructor
    · intro same _ _ expression hwrites
      exact differs ((written expression hwrites).symm.trans (same expression hwrites))
    · intro none expression hwrites
      exact absurd hwrites (none runtime.1 runtime.2 expression)
  · rw [if_neg runtime, hclaimed] at printed
    refine ⟨claimed, Imports.filter_specifiers printed, ?_⟩
    constructor
    · intro _ hmodule hsymbol
      exact absurd ⟨hmodule, hsymbol⟩ runtime
    · intro _
      exact written

/-- A context of the type `GraphQLResolveInfo` is written as `GraphQLResolveInfoMapper`, a name that
nothing imports: the only specifier for the symbol binds the symbol's own name. -/
theorem context_written_as_no_import :
    ∃ settings m output,
      Options.resolve { contextType := some "graphql#GraphQLResolveInfo" } = .ok settings ∧
      resolverModule Introspection.greeter settings = .ok m ∧
      Generator.run Introspection.greeter [] { contextType := some "graphql#GraphQLResolveInfo" }
        .resolvers = .ok output ∧
      readLines? output.preamble = some m.imports.specifiers ∧
      ∃ ref ∈ externalsInEffect Introspection.greeter settings,
        m.imports.specifiers.filter (·.imports ref) =
            [⟨"graphql", "GraphQLResolveInfo", "GraphQLResolveInfo"⟩] ∧
          m.Writes Introspection.greeter settings ref "GraphQLResolveInfoMapper" ∧
          Imports.leadingName "GraphQLResolveInfoMapper" ≠ "GraphQLResolveInfo" := by
  let ref : ExternalRef := ⟨"graphql", "GraphQLResolveInfo", ""⟩
  let settings : Settings := { plainSettings with contextType := some (.external ref) }
  have written : (resolverOutput Introspection.greeter settings).contextDefault =
      "GraphQLResolveInfoMapper" := by decide +kernel
  have resolved : Options.resolve { contextType := some "graphql#GraphQLResolveInfo" } =
      .ok settings := rfl
  refine ⟨settings, resolverOutput Introspection.greeter settings, _, resolved,
    resolverModule_eq _ _, Generator.runResolvers_eq _ (Options.settings_eq_ok_iff.mpr resolved),
    readLines?_printedImports (Options.wellFormed_of_resolve resolved), ref,
    mem_externalsInEffect.mpr (Or.inl rfl), by decide +kernel, ?_, by decide⟩
  rw [← written]
  exact .context rfl

/-- A context whose name is in use, and an object that is replaced. -/
theorem imported_as_written_library :
    ∃ settings, Options.resolve
        { contextType := some "./context#Context<User>"
          mappers := Dictionary.empty.insert "Author" "./models#AuthorModel" } = .ok settings ∧
      ∃ m output, resolverModule Schema.library settings = .ok m ∧
        Generator.run Schema.library []
            { contextType := some "./context#Context<User>"
              mappers := Dictionary.empty.insert "Author" "./models#AuthorModel" } .resolvers =
          .ok output ∧
        readLines? output.preamble = some m.imports.specifiers ∧
        ∀ ref ∈ externalsInEffect Schema.library settings, ∃ localName,
          m.imports.specifiers.filter (·.imports ref) =
              [⟨ref.modulePath, ref.symbol, localName⟩] ∧
            ((∀ expression, m.Writes Schema.library settings ref expression →
                Imports.leadingName expression = localName) ↔
              (ref.modulePath = graphqlModule → ref.symbol ∈ runtimeSymbols m.items →
                ∀ expression, ¬ m.Writes Schema.library settings ref expression)) := by
  let mapper : Reference := .external ⟨"./models", "AuthorModel", ""⟩
  let settings : Settings :=
    { plainSettings with
      contextType := some (.external ⟨"./context", "Context", "<User>"⟩)
      mappers := Dictionary.empty.insert "Author" mapper }
  have resolved : Options.resolve
      { contextType := some "./context#Context<User>"
        mappers := Dictionary.empty.insert "Author" "./models#AuthorModel" } = .ok settings := rfl
  exact ⟨settings, resolved, imported_as_written resolved Schema.library []⟩

end GraphTypes
