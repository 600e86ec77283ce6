import GraphTypes.Proofs.Declaration.Uniqueness
import GraphTypes.Proofs.Resolver.Signatures

/-!
# What resolvers refer to is declared with the types

The resolvers' code is written with types of the schema only, and with the identifiers that these
are declared under, since both kinds of code look them up in the same table. So all that it refers
to is declared in the types that are generated from the same input. If enums alone are asked for,
they alone are declared: the resolvers' code does not heed this setting.
-/

namespace GraphTypes

open Config Name Sdl TypeScript

/-! ### What the code of an item says about types -/

/-- What the resolver of a field has for the types of its result and of its arguments. -/
def FieldResolver.expressions (f : FieldResolver) : List String :=
  f.result.leafText :: (f.arguments.toList.flatMap (·.members)).map (·.type.leafText)

/-- What an item has for the types of results, parents and arguments, and for a scalar. -/
def ResolverItem.expressions : ResolverItem → List String
  | object ns => ns.parent :: ns.fields.flatMap (·.expressions)
  | abstract ns => ns.members.map (·.2)
  | scalar config => [config.identifier]

/-- What may be written for a type: what its resolvers belong to, what they yield for it, or, where
nothing replaces a type, how it is referred to. -/
inductive WrittenFor (s : Schema) (settings : Settings) (type : String) : String → Prop
  | parent {text : String} (belongs : BelongsTo s settings type text) :
    WrittenFor s settings type text
  | result {text : String} (stands : StandsFor s settings type text) :
    WrittenFor s settings type text
  | plain : WrittenFor s settings type ((ownContext s settings).refer type)

/-- A text is written for a built-in scalar or for a type of the schema. -/
def IsWritten (s : Schema) (settings : Settings) (text : String) : Prop :=
  ∃ type, (isBuiltinScalar type ∨ ∃ d ∈ s.types, d.name = type) ∧ WrittenFor s settings type text

namespace ResolverContext

variable {c : ResolverContext}

theorem expressions_fieldResolver (f : Field) (scope : Registry) :
    (c.fieldResolver f scope).1.expressions =
      c.mapped f.type.innermost :: f.arguments.map fun a => c.refer a.type.innermost := by
  rw [FieldResolver.expressions]
  congr 1
  · exact Ty.leafText_ofTypeExpr _ _ _
  · show ((c.claimArguments f _).1.toList.flatMap (·.members)).map (·.type.leafText) = _
    rw [claimArguments]
    split
    · next none => simp [List.isEmpty_iff.mp none]
    · simp [argumentRecord, DeclarationContext.inputMembers, DeclarationContext.member,
        DeclarationContext.refer, refer]

theorem expressions_abstractNamespace (d : TypeDef) (members : List String) (name : String)
    (r : Registry) :
    (ResolverItem.abstract (c.abstractNamespace d members name r)).expressions =
      members.map c.parentOf :=
  List.map_map

theorem exists_of_mem_fieldResolvers {fields : List Field} {scope : Registry}
    {resolver : FieldResolver} (h : resolver ∈ c.fieldResolvers fields scope) :
    ∃ f ∈ fields, ∃ scope', resolver = (c.fieldResolver f scope').1 := by
  induction fields generalizing scope with
  | nil => cases h
  | cons f rest ih =>
    rcases List.mem_cons.mp h with rfl | h
    · exact ⟨f, List.mem_cons_self, scope, rfl⟩
    · obtain ⟨g, hg, found⟩ := ih h
      exact ⟨g, List.mem_cons_of_mem f hg, found⟩

end ResolverContext

section Items

variable {s : Schema} {settings : Settings} {d : TypeDef}

theorem isWritten_parentOf {type : String}
    (h : isBuiltinScalar type ∨ ∃ d ∈ s.types, d.name = type) :
    IsWritten s settings ((resolverContext s settings).parentOf type) :=
  ⟨type, h, .parent ((belongsTo_iff h).mpr rfl)⟩

/-- Each expression of an item is written for a type that the schema knows. -/
theorem isWritten_of_mem_expressions (hd : d ∈ s.types) {name : String} {r : Registry}
    {item : ResolverItem} (made : (resolverContext s settings).item? d name r = some item)
    {text : String} (h : text ∈ item.expressions) : IsWritten s settings text := by
  have sound := s.wellFormed.sound d hd
  have members : ∀ {member}, member ∈ s.possibleTypes d →
      IsWritten s settings ((resolverContext s settings).parentOf member) := by
    intro member hmember
    obtain ⟨e, he, hname, -⟩ := Schema.declares_of_mem_possibleTypes hd hmember
    exact isWritten_parentOf (Or.inr ⟨e, he, hname⟩)
  cases ResolverContext.makes_of_item? made with
  | object kind =>
    rcases List.mem_cons.mp h with rfl | h
    · exact isWritten_parentOf (Or.inr ⟨d, hd, rfl⟩)
    · obtain ⟨resolver, hresolver, h⟩ := List.mem_flatMap.mp h
      obtain ⟨f, hf, scope, rfl⟩ := ResolverContext.exists_of_mem_fieldResolvers hresolver
      rw [ResolverContext.expressions_fieldResolver] at h
      rcases List.mem_cons.mp h with rfl | h
      · have resolves := sound.fields f hf
        exact ⟨_, resolves, .result ((standsFor_iff resolves).mpr rfl)⟩
      · obtain ⟨a, ha, rfl⟩ := List.mem_map.mp h
        exact ⟨_, sound.arguments f hf a ha, .plain⟩
  | abstract kind =>
    rw [ResolverContext.expressions_abstractNamespace] at h
    obtain ⟨member, hmember, rfl⟩ := List.mem_map.mp h
    exact members hmember
  | scalar kind =>
    rw [List.mem_singleton.mp h]
    exact ⟨d.name, Or.inr ⟨d, hd, rfl⟩, .plain⟩

end Items

/-! ### Where the text says it -/

section Text

variable {n : SharedNames} {contextDefault exportMark text : String}

theorem TypeScript.Ty.occurs_leafText (type : Ty) : Occurs type.leafText type.text := by
  induction type with
  | leaf text => exact .refl text
  | maybe inner ih => exact (ih.append_left _).append_right _
  | array readonly item ih => exact (ih.append_left _).append_right _

theorem TypeScript.Member.occurs_leafText (m : Member) : Occurs m.type.leafText m.signature :=
  (m.type.occurs_leafText.append_left _).append_right ";"

theorem occurs_alternatives {types : List String} (h : text ∈ types) :
    Occurs text (alternatives types) := by
  have some : types.isEmpty = false := List.isEmpty_eq_false_iff_exists_mem.mpr ⟨_, h⟩
  simp only [alternatives, some, Bool.false_eq_true, ↓reduceIte]
  exact Occurs.intercalate " | " h

theorem ArgumentRecord.occurs_leafText {record : ArgumentRecord} {m : Member}
    (h : m ∈ record.members) : Occurs m.type.leafText record.source := by
  have line : m.signature ∈ record.members.flatMap Member.lines :=
    List.mem_flatMap.mpr ⟨m, h, List.mem_append_right _ List.mem_cons_self⟩
  have inside := m.occurs_leafText.trans (Occurs.indented "    " line)
  exact (inside.append_left _).append_right _

theorem FieldResolver.occurs_expression {ns : ObjectNamespace} {resolver : FieldResolver}
    (h : text ∈ resolver.expressions) : Occurs text (resolver.source n contextDefault ns) := by
  rcases List.mem_cons.mp h with rfl | h
  · have result : Occurs resolver.result.text (resolver.signature n contextDefault ns) := by
      refine Occurs.trans ?_ FieldResolver.occurs_defaults
      iterate 5 apply Occurs.append_right
      exact (Occurs.refl _).append_left _
    exact (resolver.result.occurs_leafText.trans result).trans FieldResolver.occurs_signature
  · obtain ⟨m, hm, rfl⟩ := List.mem_map.mp h
    obtain ⟨record, taken, hm⟩ := List.mem_flatMap.mp hm
    unfold FieldResolver.source
    rw [Option.mem_toList.mp taken]
    exact (ArgumentRecord.occurs_leafText hm).append_left _

theorem ResolverItem.occurs_expression {item : ResolverItem} (h : text ∈ item.expressions) :
    Occurs text (item.source n contextDefault exportMark) := by
  cases item with
  | object ns =>
    rcases List.mem_cons.mp h with rfl | h
    · refine Occurs.trans ?_ ns.occurs_interface
      exact ((Occurs.refl ns.parent).append_left _).append_right _
    · obtain ⟨resolver, hresolver, h⟩ := List.mem_flatMap.mp h
      exact (FieldResolver.occurs_expression h).trans (ns.occurs_fieldSource hresolver)
  | abstract ns =>
    refine Occurs.trans ?_ ns.occurs_alternatives
    exact ((occurs_alternatives h).append_left _).append_right _
  | scalar config =>
    rw [List.mem_singleton.mp h]
    show Occurs config.identifier (config.source exportMark)
    unfold ScalarConfig.source
    iterate 4 apply Occurs.append_right
    exact (Occurs.refl _).append_left _

theorem SharedNames.occurs_maybe (n : SharedNames) (exportMark : String) :
    Occurs ") => Maybe<Types>;" (n.helpers exportMark) :=
  Occurs.intercalate "\n" (by simp)

variable {m : ResolverModule}

theorem ResolverModule.occurs_helpers :
    Occurs (m.names.helpers exportMark) (String.intercalate "\n\n" (m.sources exportMark)) := by
  apply Occurs.intercalate
  rw [sources]
  exact List.mem_append_left _ List.mem_cons_self

theorem ResolverModule.occurs_item {item : ResolverItem} (h : item ∈ m.items) :
    Occurs (item.source m.names m.contextDefault exportMark)
      (String.intercalate "\n\n" (m.sources exportMark)) := by
  apply Occurs.intercalate
  rw [sources]
  exact List.mem_append_left _ (List.mem_append_right _ (List.mem_map_of_mem h))

end Text

/-! ### The result -/

/-- What the resolvers' code refers to is declared in the types, or is left out of them because
enums alone are asked for. -/
structure SelfContained (s : Schema) (settings : Settings) (ds : List Declaration)
    (m : ResolverModule) (types resolvers : Output) : Prop where
  /-- The types are what `ds` declares. -/
  content : types.content = String.intercalate "\n\n" (ds.map (·.source settings.exportMark))
  /-- A helper is written with `Maybe`. -/
  helper : Occurs ") => Maybe<Types>;" resolvers.content
  maybe : settings.maybeDeclaration ∈ types.preamble ↔ settings.enumsOnly = false
  /-- Results, parents, arguments and scalars are written with types of the schema. -/
  written : ∀ item ∈ m.items, ∀ text ∈ item.expressions,
    Occurs text resolvers.content ∧ IsWritten s settings text
  /-- These are declared under their identifiers, all of them or the enums, -/
  declared : ∀ d ∈ s.types, ¬ isBuiltinScalar d.name → (settings.enumsOnly → d.kind = .enum) →
    Introduces ds d.name ((ownContext s settings).refer d.name)
  /-- and nothing is declared under the identifier of another type. -/
  omitted : ∀ d ∈ s.types, ¬ isBuiltinScalar d.name → settings.enumsOnly → d.kind ≠ .enum →
    ∀ e ∈ ds, e.identifier ≠ (ownContext s settings).refer d.name

namespace Generator

variable {s : Schema} {documents : List Operation.Document} {options : Options}

/-- Wherever types can be generated for a schema that has no introspection types of its own, so can
resolvers, and all that these refer to is declared there. If enums alone are asked for, it is the
enums, without `Maybe`. -/
theorem run_selfContained (authored : ∀ d ∈ s.types, ¬ isReflection d.name) {types : Output}
    (h : run s documents options .types = .ok types) :
    ∃ settings ds m resolvers, options.resolve = .ok settings ∧
      declarations s documents settings = .ok ds ∧ resolverModule s settings = .ok m ∧
      run s documents options .resolvers = .ok resolvers ∧
      SelfContained s settings ds m types resolvers := by
  obtain ⟨settings, ds, accepted, made, rfl⟩ := runTypes_eq_ok h
  have generated := runResolvers_eq s accepted
  obtain ⟨admits, -, rfl⟩ := declarations_eq_ok s settings made
  refine ⟨settings, _, _, _, Options.settings_eq_ok_iff.mp accepted, made,
    resolverModule_eq s settings, generated, ?_⟩
  exact
    { content := rfl
      helper := (SharedNames.occurs_maybe _ _).trans ResolverModule.occurs_helpers
      maybe := by cases settings.enumsOnly <;> simp
      written := by
        intro item hitem text htext
        obtain ⟨d, hd, r, -, made⟩ := (resolverContext s settings).exists_of_mem_items hitem
        exact ⟨(ResolverItem.occurs_expression htext).trans (ResolverModule.occurs_item hitem),
          isWritten_of_mem_expressions (resolverTypes_subset s hd) made htext⟩
      declared := by
        intro d hd builtin enum
        have own : (!isReflection d.name) = true := by simpa using authored d hd
        exact introduces_own ((mem_declaredTypes s settings).mpr ⟨hd, builtin, own, enum⟩) admits
      omitted := by
        intro d hd builtin only other e he same
        have declared := (exists_identifier_iff hd builtin).mp ⟨e, he, same⟩
        exact other (((mem_declaredTypes s settings).mp declared).2.2.2 only) }

/-- Every kind of type, with a mapper that uses the identifier it replaces and a default mapper. -/
theorem run_selfContained_library :
    let options : Options :=
      { mappers := Dictionary.empty.insert "Book" "./models#BookModel<\x7bT\x7d>"
        defaultMapper := some "Partial<\x7bT\x7d>" }
    (∀ d ∈ Schema.library.types, ¬ isReflection d.name) ∧
      ∃ types, run Schema.library [] options .types = .ok types ∧
        ∃ settings ds m resolvers, options.resolve = .ok settings ∧
          declarations Schema.library [] settings = .ok ds ∧
          resolverModule Schema.library settings = .ok m ∧
          run Schema.library [] options .resolvers = .ok resolvers ∧
          SelfContained Schema.library settings ds m types resolvers := by
  intro options
  let book : Reference := .external ⟨"./models", "BookModel", "<\x7bT\x7d>"⟩
  let settings : Settings :=
    { plainSettings with
      mappers := Dictionary.empty.insert "Book" book
      defaultMapper := some (.inline "Partial<\x7bT\x7d>") }
  have accepted : options.settings = .ok settings := by
    dsimp only [options]
    rfl
  have authored : ∀ d ∈ Schema.library.types, ¬ isReflection d.name := by decide +kernel
  have used : Introspection.usedTypes Schema.library Introspection.metaSchema [] = .ok [] := rfl
  obtain ⟨ds, made⟩ := exists_declarations Schema.library settings used
  have generated : run Schema.library [] options .types = .ok _ := runTypes_eq accepted made
  exact ⟨authored, _, generated, run_selfContained authored generated⟩

end Generator

/-- Two objects and no enum. -/
def Schema.enumless : Schema where
  types :=
    [{ description := none, name := "Query"
       shape := .object []
        [{ description := none, name := "me", arguments := [], type := .named "User" }] },
      { description := none, name := "User"
        shape := .object []
         [{ description := none, name := "name", arguments := [], type := .named "String" }] }]
  roots := { query := some "Query" }
  faultless := by decide +kernel

namespace Generator

/-- If enums alone are asked for, nothing is declared here, neither `User` nor `Maybe`. -/
theorem enumsOnly_leaves_types_out :
    let options : Options := { generateOnly := some "enums" }
    ∃ resolvers, run Schema.enumless [] options .types = .ok { preamble := [], content := "" } ∧
      run Schema.enumless [] options .resolvers = .ok resolvers ∧
      Occurs ") => Maybe<Types>;" resolvers.content ∧
      Occurs "me?: MeResolver<Maybe<User>, " resolvers.content := by
  intro options
  let settings := { plainSettings with enumsOnly := true }
  have accepted : options.settings = .ok settings := by
    dsimp only [options]
    rfl
  have nothing : Introspection.explore Introspection.metaSchema [] {} = {} := by
    rw [Introspection.explore]
  have admitted : admittedIntrospection Schema.enumless [] settings =
      .ok ({} : Introspection.Discovery).contains := by
    rw [← nothing]
    rfl
  have made : declarations Schema.enumless [] settings = .ok [] := by
    rw [declarations_eq, admitted]
    decide +kernel
  let resolver : FieldResolver :=
    { description := none, field := "me", name := "MeResolver", result := .maybe (.leaf "User")
      arguments := none }
  let ns : ObjectNamespace :=
    { type := "Query", description := none, name := "QueryResolvers", resolvers := "Resolvers"
      parent := "\x7b\x7d", isSubscription := false, fields := [resolver] }
  have item : .object ns ∈ (resolverOutput Schema.enumless settings).items := by decide +kernel
  have inside : resolver ∈ ns.fields := List.mem_singleton_self resolver
  have line : "me?: MeResolver<Maybe<User>, " = resolver.field ++ "?: " ++ resolver.name ++ "<" ++
      resolver.result.text ++ ", " := by decide +kernel
  refine ⟨_, runTypes_eq accepted made, runResolvers_eq _ accepted,
    (SharedNames.occurs_maybe _ _).trans ResolverModule.occurs_helpers, ?_⟩
  rw [line]
  refine Occurs.trans ?_ (ResolverModule.occurs_item item)
  exact FieldResolver.occurs_arguments.trans (ns.occurs_member inside)

end Generator

end GraphTypes
