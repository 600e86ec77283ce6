import GraphTypes.Generator
import GraphTypes.Proofs.Resolver.Lookup

/-!
# What keeps code from being generated

A schema that was accepted never does. Resolvers can be generated whenever the configuration is
right; types can then be generated too, unless introspection types are declared as documents need
them and a document cannot be read against the schema. Identifiers are never looked up in vain, for
any of the types and at any place in the output.
-/

namespace GraphTypes

open Config Sdl

/-! ### Causes -/

namespace Introspection

variable {s reflect : Schema} {documents : List Operation.Document} {cause : SchemaError}

/-- What can be wrong with documents: an operation has no root type to start from, or the type that
a condition names is in neither schema. -/
inductive DocumentFault (s reflect : Schema) : SchemaError → Prop
  | missingRoot {kind : Operation.OperationKind} (missing : s.root? kind = none) :
    DocumentFault s reflect (.missingRoot kind)
  | unknownCondition {name : String} (unknown : ¬ IsKnown s reflect name) :
    DocumentFault s reflect (.unknownType name "type condition")

theorem Faulty.documentFault {d : Operation.Definition} (h : Faulty s reflect d cause) :
    DocumentFault s reflect cause := by
  cases h with
  | missingRoot _ missing => exact .missingRoot missing
  | fragment _ _ unknown => exact .unknownCondition unknown
  | inlineFragment _ _ unknown => exact .unknownCondition unknown

theorem documentFault_of_usedTypes (h : usedTypes s reflect documents = .error cause) :
    DocumentFault s reflect cause := by
  have exact := exact_usedInAll s reflect documents.flatten
  rw [usedTypes_eq] at h
  cases hall : usedInAll s reflect documents.flatten with
  | ok names => rw [hall] at h; cases h
  | error e =>
    rw [hall] at h exact
    cases h
    obtain ⟨d, -, fault⟩ := exact
    exact fault.documentFault

end Introspection

/-- What the documents need is asked for only if not all introspection types are declared. -/
theorem admittedIntrospection_error_iff {s : Schema} {documents : List Operation.Document}
    {settings : Settings} {cause : SchemaError} :
    admittedIntrospection s documents settings = .error cause ↔
      settings.includeIntrospectionTypes = false ∧
        Introspection.usedTypes s Introspection.metaSchema documents = .error cause := by
  rw [admittedIntrospection, Introspection.neededTypes]
  cases settings.includeIntrospectionTypes with
  | true => simp
  | false =>
    cases Introspection.usedTypes s Introspection.metaSchema documents with
    | ok used => simp [bind, Except.bind, pure, Except.pure]
    | error e => simp [bind, Except.bind]

/-! ### Lookups -/

/-- Identifiers for further types change nothing that is declared. So no identifier is ever looked
up in vain: the further types could have any. -/
structure FindsIdentifiers (s : Schema) (settings : Settings) : Prop where
  own : ∀ more, ((ownContext s settings).extend more).declareAll (ownTypes s settings)
    (reflectNames s settings).2 = ownDeclarations s settings
  reflected : ∀ more admits,
    (((reflectContext s settings).extend more).declareAll (reflectTypes settings admits)
      (ownDeclarations s settings).2).1 = reflectDeclarations s settings admits
  resolvers : ∀ more, ((resolverContext s settings).extend more).items (resolverTypes s)
    (claimedImports s settings).2 = resolverItems s settings

theorem findsIdentifiers (s : Schema) (settings : Settings) : FindsIdentifiers s settings where
  own := ownDeclarations_extend s settings
  reflected := reflectDeclarations_extend s settings
  resolvers := resolverItems_extend s settings

/-! ### Generators -/

/-- A chain of steps fails in its first step or behind it. -/
theorem bind_eq_error_iff {ε α β : Type} {first : Except ε α} {next : α → Except ε β} {e : ε} :
    first >>= next = .error e ↔
      first = .error e ∨ ∃ a, first = .ok a ∧ next a = .error e := by
  cases first <;> simp [bind, Except.bind]

/-- What is reported of a failure is made from its cause. -/
theorem mapError_eq_error_iff {ε ε' α : Type} {result : Except ε α} {report : ε → ε'} {e : ε'} :
    result.mapError report = .error e ↔ ∃ cause, result = .error cause ∧ e = report cause := by
  cases result <;> simp [Except.mapError, eq_comm]

theorem map_eq_error_iff {ε α β : Type} {result : Except ε α} {f : α → β} {e : ε} :
    result.map f = .error e ↔ result = .error e := by
  cases result <;> simp [Except.map]

theorem Config.Options.settings_eq_ok_iff {options : Options} {settings : Settings} :
    options.settings = .ok settings ↔ options.resolve = .ok settings := by
  rw [Options.settings]
  cases options.resolve <;> simp [Except.mapError]

namespace Generator

variable {s : Schema} {documents : List Operation.Document} {options : Options} {e : Error}

/-- Under settings that are right resolvers are generated. -/
theorem runResolvers_eq (s : Schema) {settings : Settings} (h : options.settings = .ok settings) :
    runResolvers s options = .ok
      { preamble := (resolverOutput s settings).imports.lines
        content := String.intercalate "\n\n"
          ((resolverOutput s settings).sources settings.exportMark) } := by
  rw [runResolvers, h]
  show ((resolverModule s settings).mapError Error.schema).bind _ = _
  rw [resolverModule_eq]
  rfl

/-- Under settings that are right types are generated if their declarations can be made. -/
theorem runTypes_eq {settings : Settings} {ds : List Declaration}
    (h : options.settings = .ok settings) (hds : declarations s documents settings = .ok ds) :
    runTypes s documents options = .ok
      { preamble := if settings.enumsOnly then [] else [settings.maybeDeclaration]
        content := String.intercalate "\n\n" (ds.map (·.source settings.exportMark)) } := by
  rw [runTypes, h]
  show ((declarations s documents settings).mapError Error.schema).bind _ = _
  rw [hds]
  rfl

theorem runTypes_eq_ok {output : Output} (h : runTypes s documents options = .ok output) :
    ∃ settings ds, options.settings = .ok settings ∧ declarations s documents settings = .ok ds ∧
      output =
        { preamble := if settings.enumsOnly then [] else [settings.maybeDeclaration]
          content := String.intercalate "\n\n" (ds.map (·.source settings.exportMark)) } := by
  rw [runTypes] at h
  obtain ⟨settings, accepted, h⟩ := exists_of_bind_eq_ok h
  obtain ⟨ds, made, h⟩ := exists_of_bind_eq_ok h
  cases h
  exact ⟨settings, ds, accepted, eq_ok_of_mapError_eq_ok made, rfl⟩

/-- The code for the types is that of their declarations under the settings that are accepted. -/
theorem content_eq_of_runTypes {settings : Settings} {output : Output}
    (resolved : options.resolve = .ok settings) (h : runTypes s documents options = .ok output) :
    ∃ ds, declarations s documents settings = .ok ds ∧
      output.content = String.intercalate "\n\n" (ds.map (·.source settings.exportMark)) := by
  obtain ⟨settings', ds, accepted, made, rfl⟩ := runTypes_eq_ok h
  rw [Options.settings_eq_ok_iff, resolved] at accepted
  cases accepted
  exact ⟨ds, made, rfl⟩

theorem runResolvers_error_iff :
    runResolvers s options = .error e ↔ options.settings = .error e := by
  cases accepted : options.settings with
  | ok settings =>
    rw [runResolvers_eq s accepted]
    constructor <;> rintro ⟨⟩
  | error e' =>
    rw [runResolvers, bind_eq_error_iff, accepted]
    simp

theorem runTypes_error_iff :
    runTypes s documents options = .error e ↔
      options.settings = .error e ∨
        ∃ settings cause, options.settings = .ok settings ∧
          admittedIntrospection s documents settings = .error cause ∧ e = .schema cause := by
  rw [runTypes, bind_eq_error_iff]
  refine or_congr_right (exists_congr fun settings => ?_)
  rw [exists_and_left]
  refine and_congr_right fun _ => ?_
  rw [bind_eq_error_iff, declarations_eq, mapError_eq_error_iff]
  simp only [map_eq_error_iff]
  refine or_iff_left ?_
  rintro ⟨_, -, ⟨⟩⟩

/-- Resolvers are not generated exactly if the configuration is wrong, and that is what is reported.
Types are not generated exactly if the configuration is wrong, or if they depend on documents and
these are wrong; that is what is reported, and a document is wrong in one of two ways. Whatever is
generated, all identifiers are found, and none is ever reported as missing. So where types can be
generated, resolvers can. -/
theorem run_error_iff (s : Schema) (documents : List Operation.Document)
    (options : Options) :
    (∀ e, run s documents options .resolvers = .error e ↔
      ∃ cause, options.resolve = .error cause ∧ e = .config cause) ∧
    (∀ e, run s documents options .types = .error e ↔
      (∃ cause, options.resolve = .error cause ∧ e = .config cause) ∨
      ∃ settings cause, options.resolve = .ok settings ∧
        settings.includeIntrospectionTypes = false ∧
        Introspection.usedTypes s Introspection.metaSchema documents = .error cause ∧
        e = .schema cause) ∧
    (∀ cause, Introspection.usedTypes s Introspection.metaSchema documents = .error cause →
      Introspection.DocumentFault s Introspection.metaSchema cause) ∧
    (∀ settings, FindsIdentifiers s settings) ∧
    (∀ g name, run s documents options g ≠ .error (.schema (.noIdentifier name))) ∧
    ((∃ output, run s documents options .types = .ok output) →
      ∃ output, run s documents options .resolvers = .ok output) := by
  have resolvers : ∀ e, run s documents options .resolvers = .error e ↔
      ∃ cause, options.resolve = .error cause ∧ e = .config cause := by
    intro e
    exact runResolvers_error_iff.trans mapError_eq_error_iff
  have types : ∀ e, run s documents options .types = .error e ↔
      (∃ cause, options.resolve = .error cause ∧ e = .config cause) ∨
      ∃ settings cause, options.resolve = .ok settings ∧
        settings.includeIntrospectionTypes = false ∧
        Introspection.usedTypes s Introspection.metaSchema documents = .error cause ∧
        e = .schema cause := by
    intro e
    refine runTypes_error_iff.trans (or_congr mapError_eq_error_iff ?_)
    simp only [Options.settings_eq_ok_iff, admittedIntrospection_error_iff, and_assoc]
  refine ⟨resolvers, types, fun _ => Introspection.documentFault_of_usedTypes,
    findsIdentifiers s, ?_, ?_⟩
  · intro g name missing
    cases g with
    | resolvers =>
      obtain ⟨cause, -, ⟨⟩⟩ := (resolvers _).mp missing
    | types =>
      rcases (types _).mp missing with ⟨cause, -, ⟨⟩⟩ | ⟨settings, cause, -, -, failed, ⟨⟩⟩
      cases Introspection.documentFault_of_usedTypes failed
  · rintro ⟨output, generated⟩
    cases hrun : run s documents options .resolvers with
    | ok output' => exact ⟨output', rfl⟩
    | error e =>
      -- The configuration would be wrong for both.
      have wrong := (types e).mpr (Or.inl ((resolvers e).mp hrun))
      rw [generated] at wrong
      cases wrong

/-- A mutation, against a schema that has none. -/
theorem run_error_iff_library :
    run Schema.library [[.operation .mutation []]] {} .types =
        .error (.schema (.missingRoot .mutation)) ∧
      ∃ output, run Schema.library [[.operation .mutation []]] {} .resolvers = .ok output := by
  have resolved : ({} : Options).resolve = .ok plainSettings := rfl
  have failed : Introspection.usedTypes Schema.library Introspection.metaSchema
      [[.operation .mutation []]] = .error (.missingRoot .mutation) := by decide +kernel
  have outcome := run_error_iff Schema.library [[.operation .mutation []]] {}
  refine ⟨(outcome.2.1 _).mpr (Or.inr ⟨plainSettings, _, resolved, rfl, failed, rfl⟩), ?_⟩
  cases hrun : run Schema.library [[.operation .mutation []]] {} .resolvers with
  | ok output => exact ⟨output, rfl⟩
  | error e =>
    obtain ⟨cause, wrong, -⟩ := (outcome.1 e).mp hrun
    rw [resolved] at wrong
    cases wrong

end Generator

end GraphTypes
