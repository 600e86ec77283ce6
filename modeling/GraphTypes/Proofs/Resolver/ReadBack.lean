import GraphTypes.Proofs.Generator
import GraphTypes.Proofs.Resolver.ImportLine
import GraphTypes.Proofs.Resolver.References

/-!
# Import lines are read back

The lines at the top of the resolvers' code stand for the import table: one line for each module, in
the order of their paths, with its symbols in order. A line says what was collected for its module
in two cases only not: the path is put between quotes as it is, so it may hold nothing that has a
meaning there; and a symbol of the GraphQL runtime that is also that of a reference loses the name
that the reference claimed.
-/

namespace GraphTypes

open Config Name TypeScript

/-! ### The import table -/

namespace Imports

variable {imports : Imports} {r : Registry}

/-- Something is imported from every module of the table. -/
def IsOccupied (imports : Imports) : Prop := ∀ line ∈ imports.entries, line.2.entries ≠ []

theorem isOccupied_none : IsOccupied none := by
  intro line hline
  cases hline

theorem IsOccupied.enter (h : imports.IsOccupied) (modulePath symbol localName : String) :
    (imports.enter modulePath symbol localName).IsOccupied := by
  rintro ⟨path, symbols⟩ hline
  rw [← Dictionary.get?_eq_some_iff, Imports.enter, Dictionary.get?_insert] at hline
  split at hline
  · cases hline
    have entered : (symbol, localName) ∈
        ((imports.symbols modulePath).insert symbol localName).entries := by
      rw [← Dictionary.get?_eq_some_iff, Dictionary.get?_insert, if_pos rfl]
    exact List.ne_nil_of_mem entered
  · exact h _ (Dictionary.get?_eq_some_iff.mp hline)

theorem IsOccupied.add (h : imports.IsOccupied) (ref : ExternalRef) :
    (imports.add r ref).1.IsOccupied := by
  rw [Imports.add]
  split
  · exact h
  · exact h.enter _ _ _

theorem IsOccupied.addAll (h : imports.IsOccupied) (refs : List ExternalRef) :
    (imports.addAll r refs).1.IsOccupied := by
  induction refs generalizing imports r with
  | nil => exact h
  | cons ref rest ih => exact ih (h.add ref)

theorem IsOccupied.addPlain (h : imports.IsOccupied) (modulePath : String) (symbols : List String) :
    (symbols.foldl (·.addPlain modulePath ·) imports).IsOccupied := by
  induction symbols generalizing imports with
  | nil => exact h
  | cons symbol rest ih => exact ih (h.enter _ _ _)

/-- The names in a line of the table. -/
theorem mem_line_iff {modulePath symbol localName : String} {symbols : Dictionary String}
    (h : (modulePath, symbols) ∈ imports.entries) :
    (symbol, localName) ∈ symbols.entries ↔
      imports.localName? ⟨modulePath, symbol, ""⟩ = some localName := by
  rw [localName?, Dictionary.get?_eq_some_iff.mpr h, Option.bind_some, Dictionary.get?_eq_some_iff]

/-! ### Names that are identifiers -/

theorem isIdentifier_append {front back : String} (hfront : isIdentifier front.toList)
    (hback : IsName back) : isIdentifier (front ++ back).toList := by
  rw [String.toList_append]
  cases hchars : front.toList with
  | nil => rw [hchars] at hfront; cases hfront
  | cons c rest =>
    rw [hchars, isIdentifier, Bool.and_eq_true, List.all_eq_true] at hfront
    rw [List.cons_append, isIdentifier, Bool.and_eq_true, List.all_eq_true]
    refine ⟨hfront.1, ?_⟩
    intro d hd
    exact (List.mem_append.mp hd).elim (hfront.2 d) (hback d)

theorem isIdentifier_available {base : String} (h : isIdentifier base.toList) :
    isIdentifier (r.available base).toList := by
  rw [Registry.available]
  split
  · refine isIdentifier_append h fun c hc => ?_
    exact inIdentifier_of_isDigit (Registry.isDigit_of_mem_toString hc)
  · exact h

theorem isIdentifier_wantedName {symbol : String} (h : isIdentifier symbol.toList) :
    isIdentifier (wantedName r symbol).toList := by
  rw [wantedName]
  split
  · have suffix : "Mapper".toList.all inIdentifier := by decide
    exact isIdentifier_append h (List.all_eq_true.mp suffix)
  · exact h

end Imports

/-! ### What is collected -/

/-- What is collected for a module: the symbols of the references in effect with the names that
they claimed and, from the module of the GraphQL runtime, the symbols that the code needs, under
their own names. -/
inductive ResolverModule.Collects (m : ResolverModule) (s : Schema) (settings : Settings)
    (modulePath : String) : String → String → Prop
  | reference {ref : ExternalRef} {localName : String} (href : ref ∈ externalsInEffect s settings)
    (hpath : ref.modulePath = modulePath)
    (claimed : (claimedImports s settings).1.localName? ref = some localName) :
    Collects m s settings modulePath ref.symbol localName
  | runtime {symbol : String} (hpath : modulePath = graphqlModule)
    (needed : symbol ∈ runtimeSymbols m.items) : Collects m s settings modulePath symbol symbol

/-- A line is read as an import of what is collected for a module, symbol by symbol in order. -/
def ResolverModule.ReadsBack (m : ResolverModule) (s : Schema) (settings : Settings)
    (modulePath line : String) : Prop :=
  ∃ symbols, readImport? line = some (modulePath, symbols) ∧
    (symbols.map Prod.fst).Pairwise (· < ·) ∧
    ∀ symbol localName, (symbol, localName) ∈ symbols ↔
      m.Collects s settings modulePath symbol localName

/-- What a line shows of what is collected for a module, whether it is read back or not: the symbols
in order, each with a name that was collected. -/
def ResolverModule.Shows (m : ResolverModule) (s : Schema) (settings : Settings)
    (modulePath line : String) : Prop :=
  ∃ symbols rest, readSpecifiers? line.toList = some (symbols, rest) ∧
    (symbols.map Prod.fst).Pairwise (· < ·) ∧
    (∀ entry ∈ symbols, m.Collects s settings modulePath entry.1 entry.2) ∧
    ∀ symbol localName, m.Collects s settings modulePath symbol localName →
      symbol ∈ symbols.map Prod.fst

/-- The references in effect to a module leave the symbols of the GraphQL runtime alone that the
code needs. -/
def ResolverModule.SparesRuntime (m : ResolverModule) (s : Schema) (settings : Settings)
    (modulePath : String) : Prop :=
  modulePath = graphqlModule → ∀ ref ∈ externalsInEffect s settings,
    ref.modulePath = modulePath → ref.symbol ∉ runtimeSymbols m.items

section

variable {s : Schema} {settings : Settings} {ref : ExternalRef} {localName modulePath : String}

theorem isOccupied_printedImports : (printedImports s settings).IsOccupied :=
  (Imports.isOccupied_none.addAll _).addPlain _ _

/-- Every name in the table was collected. -/
theorem collects_of_localName? (h : (printedImports s settings).localName? ref = some localName) :
    (resolverOutput s settings).Collects s settings ref.modulePath ref.symbol localName := by
  rw [localName?_printedImports] at h
  split at h
  · next runtime =>
    cases h
    exact .runtime runtime.1 runtime.2
  · next other =>
    rcases Imports.claimed_of_localName?_addAll h with before | ⟨⟨first, hfirst, same⟩, -⟩
    · cases before
    · rw [Imports.localName?_congr same.1 same.2] at h
      rw [same.2]
      exact .reference hfirst same.1.symm h

/-- For every symbol that is collected there is a name in the table. -/
theorem exists_localName?_of_collects {symbol : String}
    (h : (resolverOutput s settings).Collects s settings modulePath symbol localName) :
    ∃ l, (printedImports s settings).localName? ⟨modulePath, symbol, ""⟩ = some l := by
  rw [localName?_printedImports]
  split
  · exact ⟨_, rfl⟩
  · next other =>
    cases h with
    | reference href hpath claimed =>
      subst hpath
      exact ⟨_, claimed⟩
    | runtime hpath needed => exact absurd ⟨hpath, needed⟩ other

/-- A name that a reference claims is not that of a symbol of the GraphQL runtime. -/
theorem claimed_ne_runtime {symbol : String}
    (claimed : (claimedImports s settings).1.localName? ref = some localName)
    (runtime : symbol ∈ runtimeSymbols (resolverItems s settings)) : localName ≠ symbol := by
  rintro rfl
  rcases Imports.claimed_of_localName?_addAll claimed with before | ⟨-, r, hsub, rfl⟩
  · cases before
  · have reserved : r.available (Imports.wantedName r ref.symbol) ∈
        (resolverBase (ownNames s settings).1).taken :=
      mem_taken_resolverBase.mpr (Or.inl (runtimeSymbols_subset _ runtime))
    exact r.available_not_mem _ (hsub (taken_subset_sharedNames s settings reserved))

/-- All that is collected for a module is in the table exactly if no reference is overridden. -/
theorem forall_collects_iff :
    (∀ symbol localName,
      (printedImports s settings).localName? ⟨modulePath, symbol, ""⟩ = some localName ↔
        (resolverOutput s settings).Collects s settings modulePath symbol localName) ↔
      (resolverOutput s settings).SparesRuntime s settings modulePath := by
  constructor
  · rintro exact' rfl ref href hpath runtime
    obtain ⟨l, claimed⟩ := exists_localName?_claimedImports s settings href
    -- The table would hold the name that the reference claimed, and it holds the symbol.
    have found := (exact' ref.symbol l).mpr (.reference href hpath claimed)
    rw [localName?_printedImports, if_pos ⟨rfl, runtime⟩] at found
    exact claimed_ne_runtime claimed runtime (Option.some.inj found).symm
  · intro spares symbol l
    refine ⟨collects_of_localName?, ?_⟩
    rw [localName?_printedImports]
    intro h
    cases h with
    | @reference ref _ href hpath claimed =>
      subst hpath
      rw [if_neg fun runtime => spares runtime.1 ref href rfl runtime.2]
      exact claimed
    | runtime hpath needed => rw [if_pos ⟨hpath, needed⟩]

theorem isIdentifier_of_localName? (wellFormed : settings.WellFormed)
    (h : (printedImports s settings).localName? ref = some localName) :
    isIdentifier ref.symbol.toList ∧ isIdentifier localName.toList := by
  rw [localName?_printedImports] at h
  split at h
  · next runtime =>
    cases h
    have fixed : ∀ symbol ∈ [resolveInfo, scalarType, scalarTypeConfig],
        isIdentifier symbol.toList := by decide
    have symbol := fixed _ (runtimeSymbols_subset _ runtime.2)
    exact ⟨symbol, symbol⟩
  · rcases Imports.claimed_of_localName?_addAll h with before | ⟨⟨first, hfirst, same⟩, r, -, rfl⟩
    · cases before
    · have symbol := (wellFormed_of_mem_externalsInEffect wellFormed hfirst).symbol
      rw [same.2]
      exact ⟨symbol, Imports.isIdentifier_available (Imports.isIdentifier_wantedName symbol)⟩

theorem areIdentifiers_of_mem (wellFormed : settings.WellFormed) {symbols : Dictionary String}
    (h : (modulePath, symbols) ∈ (printedImports s settings).entries) :
    AreIdentifiers symbols.entries := by
  rintro ⟨symbol, l⟩ hentry
  exact isIdentifier_of_localName? wellFormed ((Imports.mem_line_iff h).mp hentry)

/-- The modules of the table are those of the references in effect and of the GraphQL runtime. -/
theorem mem_keys_printedImports :
    modulePath ∈ (printedImports s settings).keys ↔
      modulePath = graphqlModule ∨ ∃ ref ∈ externalsInEffect s settings,
        ref.modulePath = modulePath := by
  have of_localName {ref : ExternalRef} {l : String}
      (h : (printedImports s settings).localName? ref = some l) :
      ref.modulePath ∈ (printedImports s settings).keys := by
    obtain ⟨symbols, hsymbols, -⟩ := Option.bind_eq_some_iff.mp h
    exact List.mem_map.mpr ⟨_, Dictionary.get?_eq_some_iff.mp hsymbols, rfl⟩
  constructor
  · intro h
    obtain ⟨⟨_, symbols⟩, hline, rfl⟩ := List.mem_map.mp h
    obtain ⟨⟨symbol, l⟩, hentry⟩ := List.exists_mem_of_ne_nil _ (isOccupied_printedImports _ hline)
    have collected := collects_of_localName? ((Imports.mem_line_iff hline).mp hentry)
    cases collected with
    | reference href hpath _ => exact Or.inr ⟨_, href, hpath⟩
    | runtime hpath _ => exact Or.inl hpath
  · rintro (rfl | ⟨ref, href, rfl⟩)
    · have needed : resolveInfo ∈ runtimeSymbols (resolverItems s settings) := by
        rw [runtimeSymbols]
        split <;> simp
      have printed : (printedImports s settings).localName? ⟨graphqlModule, resolveInfo, ""⟩ =
          some resolveInfo := by
        rw [localName?_printedImports, if_pos ⟨rfl, needed⟩]
      exact of_localName printed
    · obtain ⟨l, claimed⟩ := exists_localName?_claimedImports s settings href
      obtain ⟨l', printed⟩ := exists_localName?_of_collects (.reference href rfl claimed)
      exact of_localName printed

end

/-! ### The result -/

section

variable {s : Schema} {settings : Settings} {modulePath : String} {symbols : Dictionary String}

theorem shows_line (wellFormed : settings.WellFormed)
    (h : (modulePath, symbols) ∈ (printedImports s settings).entries) :
    (resolverOutput s settings).Shows s settings modulePath (Imports.line modulePath symbols) := by
  refine ⟨_, _, readSpecifiers?_line (isOccupied_printedImports _ h)
    (areIdentifiers_of_mem wellFormed h), symbols.sorted, ?_, ?_⟩
  · rintro ⟨symbol, l⟩ hentry
    exact collects_of_localName? ((Imports.mem_line_iff h).mp hentry)
  · intro symbol l collected
    obtain ⟨l', found⟩ := exists_localName?_of_collects collected
    exact List.mem_map.mpr ⟨_, (Imports.mem_line_iff h).mpr found, rfl⟩

theorem readsBack_line_iff (wellFormed : settings.WellFormed)
    (h : (modulePath, symbols) ∈ (printedImports s settings).entries) :
    (resolverOutput s settings).ReadsBack s settings modulePath
        (Imports.line modulePath symbols) ↔
      IsVerbatim modulePath.toList ∧
        (resolverOutput s settings).SparesRuntime s settings modulePath := by
  have read (pairs : List (String × String)) :
      readImport? (Imports.line modulePath symbols) = some (modulePath, pairs) ↔
        IsVerbatim modulePath.toList ∧ pairs = symbols.entries :=
    readImport?_line_iff (isOccupied_printedImports _ h) (areIdentifiers_of_mem wellFormed h)
  rw [← forall_collects_iff]
  simp only [← Imports.mem_line_iff h]
  constructor
  · rintro ⟨pairs, hpairs, -, collected⟩
    obtain ⟨verbatim, rfl⟩ := (read pairs).mp hpairs
    exact ⟨verbatim, collected⟩
  · rintro ⟨verbatim, collected⟩
    exact ⟨symbols.entries, (read _).mpr ⟨verbatim, rfl⟩, symbols.sorted, collected⟩

theorem forall₂_lines (wellFormed : settings.WellFormed) :
    List.Forall₂ (fun path line => (resolverOutput s settings).Shows s settings path line ∧
        ((resolverOutput s settings).ReadsBack s settings path line ↔
          IsVerbatim path.toList ∧ (resolverOutput s settings).SparesRuntime s settings path))
      (printedImports s settings).keys (printedImports s settings).lines := by
  rw [Dictionary.keys, Imports.lines, List.forall₂_map_left_iff, List.forall₂_map_right_iff,
    List.forall₂_same]
  rintro ⟨path, symbols⟩ hline
  exact ⟨shows_line wellFormed hline, readsBack_line_iff wellFormed hline⟩

end

/-- The resolvers' code has one import line for each module that something is collected for, in the
order of their paths, and each line shows the symbols that were collected, in order. It is read back
as the path and just what was collected exactly if the path holds no quote, backslash or line break,
and no reference is to a symbol of the GraphQL runtime that the code imports for itself. -/
theorem import_lines_read_back {options : Options} {settings : Settings}
    (h : options.resolve = .ok settings) (s : Schema) (documents : List Operation.Document) :
    ∃ m output, resolverModule s settings = .ok m ∧
      Generator.run s documents options .resolvers = .ok output ∧
      ∃ paths : List String, paths.Pairwise (· < ·) ∧
        (∀ path, path ∈ paths ↔ path = graphqlModule ∨
          ∃ ref ∈ externalsInEffect s settings, ref.modulePath = path) ∧
        List.Forall₂ (fun path line => m.Shows s settings path line ∧
          (m.ReadsBack s settings path line ↔
            IsVerbatim path.toList ∧ m.SparesRuntime s settings path)) paths output.preamble := by
  have wellFormed := Options.wellFormed_of_resolve h
  refine ⟨_, _, resolverModule_eq s settings,
    Generator.runResolvers_eq s (Options.settings_eq_ok_iff.mpr h),
    (printedImports s settings).keys, (printedImports s settings).sorted,
    fun _ => mem_keys_printedImports, forall₂_lines wellFormed⟩

/-- The quote in the path `./it's` ends the literal of the line, and what follows is no code. -/
theorem quoted_path_not_read_back :
    ∃ settings m output, Options.resolve { contextType := some "./it's#Request" } = .ok settings ∧
      resolverModule Introspection.greeter settings = .ok m ∧
      Generator.run Introspection.greeter [] { contextType := some "./it's#Request" } .resolvers =
        .ok output ∧
      "import \x7b Request \x7d from './it's';" ∈ output.preamble ∧
      readImport? "import \x7b Request \x7d from './it's';" = none ∧
      ∀ line ∈ output.preamble, ¬ m.ReadsBack Introspection.greeter settings "./it's" line := by
  let settings : Settings :=
    { plainSettings with contextType := some (.external ⟨"./it's", "Request", ""⟩) }
  have resolved : Options.resolve { contextType := some "./it's#Request" } = .ok settings := rfl
  have lines : (printedImports Introspection.greeter settings).lines =
      ["import \x7b Request \x7d from './it's';",
        "import \x7b GraphQLResolveInfo \x7d from 'graphql';"] := by decide +kernel
  have unread : ∀ line ∈ (printedImports Introspection.greeter settings).lines,
      (readImport? line).all (·.1 != "./it's") := by
    rw [lines]
    decide +kernel
  refine ⟨settings, _, _, resolved, resolverModule_eq _ _,
    Generator.runResolvers_eq _ (Options.settings_eq_ok_iff.mpr resolved), ?_,
    by decide +kernel, ?_⟩
  · show _ ∈ (printedImports Introspection.greeter settings).lines
    rw [lines]
    exact List.mem_cons_self
  · rintro line hline ⟨symbols, read, -⟩
    have other := unread line hline
    rw [read] at other
    simp at other

/-- A context whose name is in use, and a path with a quote. -/
theorem import_lines_read_back_library :
    ∃ settings, Options.resolve
        { contextType := some "./context#Context<User>"
          mappers := Dictionary.empty.insert "Author" "./it's#Author" } = .ok settings ∧
      ∃ m output, resolverModule Schema.library settings = .ok m ∧
        Generator.run Schema.library []
            { contextType := some "./context#Context<User>"
              mappers := Dictionary.empty.insert "Author" "./it's#Author" } .resolvers =
          .ok output ∧
        ∃ paths : List String, paths.Pairwise (· < ·) ∧
          (∀ path, path ∈ paths ↔ path = graphqlModule ∨
            ∃ ref ∈ externalsInEffect Schema.library settings, ref.modulePath = path) ∧
          List.Forall₂ (fun path line => m.Shows Schema.library settings path line ∧
            (m.ReadsBack Schema.library settings path line ↔
              IsVerbatim path.toList ∧ m.SparesRuntime Schema.library settings path))
            paths output.preamble := by
  let mapper : Reference := .external ⟨"./it's", "Author", ""⟩
  let settings : Settings :=
    { plainSettings with
      contextType := some (.external ⟨"./context", "Context", "<User>"⟩)
      mappers := Dictionary.empty.insert "Author" mapper }
  have resolved : Options.resolve
      { contextType := some "./context#Context<User>"
        mappers := Dictionary.empty.insert "Author" "./it's#Author" } = .ok settings := rfl
  exact ⟨settings, resolved, import_lines_read_back resolved Schema.library []⟩

end GraphTypes
