import GraphTypes.Proofs.Declaration.EnumsOnly

/-!
# Options have no effect on what they are not about

Both generators are given everything that a configuration says. Which of it they look at shows when
two configurations are compared: resolvers are the same under settings that agree on what resolvers
are made from, for whatever documents; types are the same under settings that only differ in
references to the user's own types; and how enums are declared makes no difference to anything that
is no enum. `run_independent` puts the three together.
-/

namespace GraphTypes

open Config Name Sdl TypeScript

/-! ### Settings that are compared -/

namespace Config.Settings

/-- Settings that agree on what resolvers are made from. -/
structure AgreeOnResolvers (t t' : Settings) : Prop where
  scalars : t'.scalars = t.scalars
  defaultScalarType : t'.defaultScalarType = t.defaultScalarType
  typeNaming : t'.typeNaming = t.typeNaming
  argument : t'.avoidOptionals.argument = t.avoidOptionals.argument
  immutableTypes : t'.immutableTypes = t.immutableTypes
  exported : t'.exported = t.exported
  mappers : t'.mappers = t.mappers
  defaultMapper : t'.defaultMapper = t.defaultMapper
  contextType : t'.contextType = t.contextType

/-- Settings that differ in references to the user's own types and in nothing else. -/
def DifferInReferences (t t' : Settings) : Prop :=
  ∃ mappers defaultMapper contextType, t' = { t with mappers, defaultMapper, contextType }

/-- Settings that differ in how enums are declared and in nothing else. -/
def DifferInEnums (t t' : Settings) : Prop :=
  ∃ enumStyle enumValueNaming, t' = { t with enumStyle, enumValueNaming }

end Config.Settings

/-! ### Resolvers -/

namespace Config.Settings.AgreeOnResolvers

variable {t t' : Settings} (agree : t.AgreeOnResolvers t')

include agree

theorem refer (names : TypeNames) (type : String) :
    names.refer t' type = names.refer t type := by
  simp only [TypeNames.refer, scalarType, agree.scalars, agree.defaultScalarType]

theorem replacement? (s : Schema) (type : String) :
    replacement? s t' type = replacement? s t type := by
  simp only [GraphTypes.replacement?, agree.mappers, agree.defaultMapper]

theorem inputMembers (s : Schema) (names : TypeNames) (arguments : List InputValue) :
    (⟨s, names, t'⟩ : DeclarationContext).inputMembers .argument arguments =
      (⟨s, names, t⟩ : DeclarationContext).inputMembers .argument arguments := by
  have refer : (⟨s, names, t'⟩ : DeclarationContext).refer =
      (⟨s, names, t⟩ : DeclarationContext).refer := funext (agree.refer names)
  have marks : t'.marksOptional .argument = t.marksOptional .argument := by
    simp only [marksOptional, MemberFlags.get, agree.argument]
  simp only [DeclarationContext.inputMembers, DeclarationContext.member, refer, marks,
    agree.immutableTypes]

theorem mapped (s : Schema) (names : TypeNames) (imports : Imports) (type : String) :
    (⟨s, names, t', imports⟩ : ResolverContext).mapped type =
      (⟨s, names, t, imports⟩ : ResolverContext).mapped type := by
  simp only [ResolverContext.mapped, ResolverContext.refer, agree.replacement?, agree.refer]

/-- What is declared for a type depends on settings through few functions, and none of them can tell
the two settings apart. -/
theorem agreeOn (s : Schema) (names : TypeNames) (imports : Imports) (types : String → Prop) :
    ResolverContext.AgreeOn types ⟨s, names, t, imports⟩ ⟨s, names, t', imports⟩ where
  schema := rfl
  immutableTypes := agree.immutableTypes
  refer _ := agree.refer names _
  mapped _ := agree.mapped s names imports _
  parentOf _ := by simp only [ResolverContext.parentOf, agree.mappers, agree.mapped]
  argumentRecord _ _ := by simp only [ResolverContext.argumentRecord, agree.inputMembers]

theorem claimedImports (s : Schema) : claimedImports s t' = claimedImports s t := by
  simp only [GraphTypes.claimedImports, sharedNames, externalsInEffect, referencesInEffect,
    ownNames, agree.typeNaming, agree.mappers, agree.defaultMapper, agree.contextType]

theorem resolverItems (s : Schema) : resolverItems s t' = resolverItems s t := by
  rw [GraphTypes.resolverItems, GraphTypes.resolverItems, resolverContext, resolverContext,
    ownNames, ownNames, agree.typeNaming, agree.claimedImports]
  exact (agree.agreeOn s _ _ fun _ => True).items (fun _ _ => trivial) (fun _ _ => trivial) _

theorem resolverOutput (s : Schema) : resolverOutput s t' = resolverOutput s t := by
  simp only [GraphTypes.resolverOutput, printedImports, sharedNames, ownNames, agree.resolverItems,
    agree.claimedImports, agree.typeNaming, agree.contextType]

end Config.Settings.AgreeOnResolvers

/-- Documents do not matter to resolvers, and settings matter as far as resolvers are made from
them. -/
theorem runResolvers_independent (s : Schema) {o o' : Options} {t t' : Settings}
    (resolved : o.resolve = .ok t) (resolved' : o'.resolve = .ok t')
    (agree : t.AgreeOnResolvers t') :
    ∃ output, Generator.runResolvers s o = .ok output ∧
      Generator.runResolvers s o' = .ok output := by
  have generated := Generator.runResolvers_eq s (Options.settings_eq_ok_iff.mpr resolved)
  have generated' := Generator.runResolvers_eq s (Options.settings_eq_ok_iff.mpr resolved')
  rw [agree.resolverOutput, Settings.exportMark, agree.exported] at generated'
  exact ⟨_, generated, generated'⟩

/-! ### Types -/

theorem Config.Settings.DifferInReferences.declareAlike {t t' : Settings}
    (differ : t.DifferInReferences t') : t.DeclareAlike Eq t' := by
  obtain ⟨mappers, defaultMapper, contextType, rfl⟩ := differ
  exact ⟨rfl, rfl, fun _ _ _ => ⟨rfl, fun _ => rfl⟩⟩

/-- Where types are declared, nothing is replaced by the user's own types. -/
theorem runTypes_independent (s : Schema) (documents : List Operation.Document) {o o' : Options}
    {t t' : Settings} (resolved : o.resolve = .ok t) (resolved' : o'.resolve = .ok t')
    (differ : t.DifferInReferences t') :
    Generator.runTypes s documents o = Generator.runTypes s documents o' := by
  have alike := differ.declareAlike
  obtain ⟨mappers, defaultMapper, contextType, rfl⟩ := differ
  have same := (alike.declarations (fun _ => rfl) rfl s documents).eq
  rw [runTypes_eq_declaredUnder resolved, runTypes_eq_declaredUnder resolved',
    declaredUnder_eq resolved, declaredUnder_eq resolved', same]
  rfl

/-! ### Enums -/

/-- The same declaration, or another way to declare the same enum. -/
structure Declaration.SameSaveEnum (d d' : Declaration) : Prop where
  name : d'.name = d.name
  kind : d'.kind = d.kind
  identifier : d'.identifier = d.identifier
  description : d'.description = d.description
  same : d.isEnum = false → d' = d

theorem Declaration.SameSaveEnum.refl (d : Declaration) : d.SameSaveEnum d :=
  ⟨rfl, rfl, rfl, rfl, fun _ => rfl⟩

/-- A declaration with the same text, or another way to declare the same enum. -/
def SameEntrySaveEnum (e e' : Declaration × String) : Prop :=
  e.1.SameSaveEnum e'.1 ∧ (e.1.isEnum = false → e'.2 = e.2)

theorem Config.Settings.DifferInEnums.declareAlike {t t' : Settings} (differ : t.DifferInEnums t') :
    t.DeclareAlike Declaration.SameSaveEnum t' := by
  obtain ⟨enumStyle, enumValueNaming, rfl⟩ := differ
  refine ⟨rfl, rfl, fun s names d => ⟨⟨rfl, rfl, rfl, rfl, ?_⟩, fun _ => rfl⟩⟩
  intro other
  rw [DeclarationContext.isEnum_declare, TypeDef.kind] at other
  have body : (⟨s, names, { t with enumStyle, enumValueNaming }⟩ : DeclarationContext).body d =
      (⟨s, names, t⟩ : DeclarationContext).body d := by
    rw [DeclarationContext.body, DeclarationContext.body]
    -- The style and the names of values are looked at for enums only.
    cases hshape : d.shape with
    | enum values =>
      rw [hshape] at other
      cases other
    | _ => rfl
  rw [DeclarationContext.declare, DeclarationContext.declare, body]
  rfl

/-- How enums are declared decides about the declarations of enums alone. -/
theorem declaredUnder_independent (s : Schema) (documents : List Operation.Document)
    {o o' : Options} {t t' : Settings} (resolved : o.resolve = .ok t)
    (resolved' : o'.resolve = .ok t') (differ : t.DifferInEnums t') :
    AlikeLists SameEntrySaveEnum (declaredUnder s documents o) (declaredUnder s documents o') := by
  have alike := differ.declareAlike
  obtain ⟨enumStyle, enumValueNaming, rfl⟩ := differ
  rw [declaredUnder_eq resolved, declaredUnder_eq resolved']
  refine ((alike.declarations Declaration.SameSaveEnum.refl rfl s documents).mapError _).map ?_
  intro d d' same
  refine ⟨same, fun other => ?_⟩
  rw [same.same other]
  rfl

namespace Generator

/-- No option has an effect on what it is not about. The settings that two configurations resolve to
are compared:
- if they agree on what resolvers are made from, the resolvers that are generated are the same, and
  documents do not matter at all;
- if they only differ in references to the user's own types, the same types are generated, or none
  for the same reason;
- if they only differ in how enums are declared, the same is declared in the same order, or nothing
  for the same reason, and only of enums the texts may differ. -/
theorem run_independent (s : Schema) {o o' : Options} {t t' : Settings}
    (resolved : o.resolve = .ok t) (resolved' : o'.resolve = .ok t') :
    (t.AgreeOnResolvers t' → ∀ documents documents', ∃ output,
      run s documents o .resolvers = .ok output ∧ run s documents' o' .resolvers = .ok output) ∧
    (t.DifferInReferences t' → ∀ documents,
      run s documents o .types = run s documents o' .types) ∧
    (t.DifferInEnums t' → ∀ documents,
      AlikeLists SameEntrySaveEnum (declaredUnder s documents o)
        (declaredUnder s documents o')) := by
  refine ⟨fun agree _ _ => ?_, fun differ documents => ?_, fun differ documents => ?_⟩
  · exact runResolvers_independent s resolved resolved' agree
  · exact runTypes_independent s documents resolved resolved' differ
  · exact declaredUnder_independent s documents resolved resolved' differ

/-- Options that resolvers are not made from, and the usual convention for types under its other
name. -/
def unrelated : Options where
  namingConvention := some (.perKind (some "change-case#pascalCase") (some "keep"))
  avoidOptionals := { field := true, inputValue := true }
  constEnums := true
  maybeValue := some "T | undefined"
  generateOnly := some "enums"
  includeIntrospectionTypes := true

/-- Options that replace types. -/
def replacing : Options where
  mappers := Dictionary.empty.insert "Book" "./models#BookModel"
  defaultMapper := some "./models#Model<\x7bT\x7d>"
  contextType := some "./context#Context"

/-- Options for enums. -/
def enumTypes : Options where
  namingConvention := some (.perKind none (some "keep"))
  enumsAsTypes := true

/-- Each is compared to a configuration that says nothing. The operation is a mutation, which the
library does not have. -/
theorem run_independent_library :
    (∃ output, run Schema.library [] {} .resolvers = .ok output ∧
      run Schema.library [[.operation .mutation []]] unrelated .resolvers = .ok output) ∧
    run Schema.library [] {} .types = run Schema.library [] replacing .types ∧
    AlikeLists SameEntrySaveEnum (declaredUnder Schema.library [] {})
      (declaredUnder Schema.library [] enumTypes) := by
  have plain : ({} : Options).resolve = .ok plainSettings := rfl
  have resolved : unrelated.resolve = .ok _ := rfl
  have resolved' : replacing.resolve = .ok _ := rfl
  have resolved'' : enumTypes.resolve = .ok _ := rfl
  have agree := (run_independent Schema.library plain resolved).1
  have references := (run_independent Schema.library plain resolved').2.1
  have enums := (run_independent Schema.library plain resolved'').2.2
  refine ⟨agree ?_ [] _, references ?_ [], enums ?_ []⟩
  · exact ⟨rfl, rfl, rfl, rfl, rfl, rfl, rfl, rfl, rfl⟩
  · exact ⟨_, _, _, rfl⟩
  · exact ⟨_, _, rfl⟩

end Generator

end GraphTypes
