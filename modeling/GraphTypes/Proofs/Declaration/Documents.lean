import GraphTypes.Proofs.Config.Reference
import GraphTypes.Proofs.Declaration.Agreement
import GraphTypes.Proofs.Declaration.Identifiers
import GraphTypes.Proofs.Declaration.References
import GraphTypes.Proofs.Introspection.Usage
import GraphTypes.Proofs.Name.Claims

/-!
# More documents only add introspection declarations

Documents decide which introspection types are declared, and about nothing else. If all definitions
of some documents occur in others, the others need at least the same introspection types
(`neededTypes_mono`), and the declarations of these are the same ones.

The second half is about names. Argument records claim theirs one after the other, so leaving out a
type leaves out claims that others come after. But the names that the introspection types want have
different stems under every convention (`pairwise_stem_argumentsNames`), and such claims do not
affect each other.
-/

namespace GraphTypes

open Config Name Sdl

/-! ### What more documents need -/

namespace Introspection

variable {s reflect : Schema} {documents more : List Operation.Document}

theorem exists_uses_iff {definitions : List Operation.Definition} {name : String} :
    (∃ position, Uses s reflect definitions position name) ↔
      ∃ d ∈ definitions, ∃ position, DefinitionUses s reflect d position name := by
  constructor
  · rintro ⟨_, i, d, parent, selections, q, rfl, found, starts, uses⟩
    exact ⟨d, List.mem_of_getElem? found, q, parent, selections, starts, uses⟩
  · rintro ⟨d, hd, q, parent, selections, starts, uses⟩
    obtain ⟨i, found⟩ := List.mem_iff_getElem?.mp hd
    exact ⟨i :: q, i, d, parent, selections, q, rfl, found, starts, uses⟩

/-- What is used by documents that are not at fault is used by more documents too. -/
theorem usedTypes_mono (sub : documents.flatten ⊆ more.flatten) {used' : List String}
    (h : usedTypes s reflect more = .ok used') :
    ∃ used, usedTypes s reflect documents = .ok used ∧ used ⊆ used' := by
  have exact := exact_usedInAll s reflect documents.flatten
  have exact' := exact_usedInAll s reflect more.flatten
  rw [usedTypes_eq] at h
  cases hmore : usedInAll s reflect more.flatten with
  | error e => rw [hmore] at h; cases h
  | ok names' =>
    rw [hmore] at h exact'
    cases h
    cases hall : usedInAll s reflect documents.flatten with
    | error e =>
      -- A fault would be one of the other documents as well.
      rw [hall] at exact
      obtain ⟨d, hd, fault⟩ := exact
      exact absurd ⟨d, sub hd, fault⟩ (exact'.1 e)
    | ok names =>
      rw [hall] at exact
      refine ⟨names.eraseDups, by rw [usedTypes_eq, hall]; rfl, ?_⟩
      intro name hname
      rw [List.mem_eraseDups, exact.2.mem_iff, exists_uses_iff] at hname
      rw [List.mem_eraseDups, exact'.2.mem_iff, exists_uses_iff]
      obtain ⟨d, hd, uses⟩ := hname
      exact ⟨d, sub hd, uses⟩

theorem explore_mono {used used' : List String} (sub : used ⊆ used') {name : String}
    (h : (explore reflect used {}).contains name) : (explore reflect used' {}).contains name := by
  have closed' := (isLeast_explore reflect used').1
  have closed : Closed reflect used {name | (explore reflect used' {}).contains name} :=
    ⟨fun n hn => closed'.used_mem n (sub hn), closed'.field_mem⟩
  exact (isLeast_explore reflect used).2 closed h

theorem neededTypes_mono (sub : documents.flatten ⊆ more.flatten) {needed' : Discovery}
    (h : neededTypes s reflect more = .ok needed') :
    ∃ needed, neededTypes s reflect documents = .ok needed ∧
      ∀ name, needed.contains name → needed'.contains name := by
  rw [neededTypes] at h
  obtain ⟨used', hused', h⟩ := exists_of_bind_eq_ok h
  cases h
  obtain ⟨used, hused, usedSub⟩ := usedTypes_mono sub hused'
  refine ⟨explore reflect used {}, by rw [neededTypes, hused]; rfl, ?_⟩
  intro name
  exact explore_mono usedSub

end Introspection

/-- More documents admit more introspection types. -/
theorem admittedIntrospection_mono {s : Schema} {documents more : List Operation.Document}
    {settings : Settings} (sub : documents.flatten ⊆ more.flatten) {admits' : String → Bool}
    (h : admittedIntrospection s more settings = .ok admits') :
    ∃ admits, admittedIntrospection s documents settings = .ok admits ∧
      ∀ name, admits name → admits' name := by
  by_cases all : settings.includeIntrospectionTypes
  · rw [admittedIntrospection, if_pos all] at h ⊢
    exact ⟨admits', h, fun _ => id⟩
  · rw [admittedIntrospection, if_neg all] at h ⊢
    obtain ⟨needed', hneeded', h⟩ := exists_of_bind_eq_ok h
    cases h
    obtain ⟨needed, hneeded, mono⟩ := Introspection.neededTypes_mono sub hneeded'
    rw [hneeded]
    exact ⟨needed.contains, rfl, mono⟩

/-! ### Argument records that do not affect each other -/

/-- What comes from fewer elements comes from all of them, in the same order. -/
theorem sublist_flatMap {α β : Type} {f : α → List β} {fewer all : List α}
    (h : fewer.Sublist all) : (fewer.flatMap f).Sublist (all.flatMap f) := by
  induction h with
  | slnil => exact .slnil
  | cons a _ ih => exact ih.trans (List.sublist_append_right (f a) _)
  | cons_cons a _ ih => exact ih.append_left (f a)

namespace DeclarationContext

variable (c : DeclarationContext)

/-- The names that the argument records of types want, in order. -/
def argumentsNames (types : List TypeDef) : List String :=
  types.flatMap fun d => (fieldsWithArguments d).map (c.argumentsName d.name)

/-- The declarations of a type as they are if nothing else is declared. -/
def declareAlone (r : Registry) (d : TypeDef) : List Declaration :=
  c.declare d :: (fieldsWithArguments d).map fun f =>
    c.declareArguments (r.available (c.argumentsName d.name f)) f

/-- If all argument records want names with different stems, every type is declared as it would be
alone. -/
theorem declareAll_eq_flatMap {types : List TypeDef} {r : Registry}
    (differ : (c.argumentsNames types).Pairwise fun a b => Registry.stem a ≠ Registry.stem b) :
    (c.declareAll types r).1 = types.flatMap (c.declareAlone r) := by
  induction types generalizing r with
  | nil => rfl
  | cons d rest ih =>
    rw [argumentsNames, List.flatMap_cons, List.pairwise_append] at differ
    obtain ⟨own, others, apart⟩ := differ
    have records : (c.argumentRecords d r).1 = (fieldsWithArguments d).map fun f =>
        c.declareArguments (r.available (c.argumentsName d.name f)) f := by
      have pairs : ((fieldsWithArguments d).map (r.available ∘ c.argumentsName d.name)).zip
          ((fieldsWithArguments d).map id) = _ := List.zip_map'
      rw [List.map_id] at pairs
      show ((r.claimAll _).1.zip (fieldsWithArguments d)).map _ = _
      rw [Registry.claimAll_eq_map own, List.map_map, pairs, List.map_map]
      rfl
    -- The claims of the first type change nothing for the others, whose stems differ.
    have unaffected : rest.flatMap (c.declareAlone (c.argumentRecords d r).2) =
        rest.flatMap (c.declareAlone r) := by
      apply List.flatMap_congr
      intro e he
      have same : ∀ f ∈ fieldsWithArguments e,
          (c.argumentRecords d r).2.available (c.argumentsName e.name f) =
            r.available (c.argumentsName e.name f) := by
        intro f hf
        apply Registry.available_claimAll_of_stem_ne
        intro other hother
        exact apart other hother _ (List.mem_flatMap.mpr ⟨e, he, List.mem_map_of_mem hf⟩)
      rw [declareAlone, declareAlone]
      congr 1
      apply List.map_congr_left
      intro f hf
      rw [same f hf]
    calc (c.declareAll (d :: rest) r).1
      _ = c.declare d :: (c.argumentRecords d r).1 ++
          (c.declareAll rest (c.argumentRecords d r).2).1 := rfl
      _ = c.declareAlone r d ++ rest.flatMap (c.declareAlone r) := by
        rw [ih others, records, unaffected, declareAlone]

/-- Types can be left out without a trace. -/
theorem declareAll_sublist {types fewer : List TypeDef} {r : Registry}
    (differ : (c.argumentsNames types).Pairwise fun a b => Registry.stem a ≠ Registry.stem b)
    (sub : fewer.Sublist types) : (c.declareAll fewer r).1.Sublist (c.declareAll types r).1 := by
  have names : (c.argumentsNames fewer).Sublist (c.argumentsNames types) := sublist_flatMap sub
  rw [c.declareAll_eq_flatMap differ, c.declareAll_eq_flatMap (differ.sublist names)]
  exact sublist_flatMap sub

end DeclarationContext

/-! ### The argument records of introspection types -/

/-- The fields of introspection types that take arguments, each with its type. -/
def fieldsOfMetaTypes : List (TypeDef × Field) :=
  Introspection.metaTypes.flatMap fun d =>
    (DeclarationContext.fieldsWithArguments d).map fun f => (d, f)

/-- What the name of an argument record begins with: the spellings of the field and of its type. -/
def argumentsFront (naming : Convention) (entry : TypeDef × Field) : List Char :=
  naming.applyChars entry.2.name.toList ++ naming.applyChars entry.1.name.toList

/-- No such beginning is the beginning of another one. -/
theorem pairwise_argumentsFront (naming : Convention) :
    fieldsOfMetaTypes.Pairwise fun a b =>
      ¬ argumentsFront naming a <+: argumentsFront naming b ∧
        ¬ argumentsFront naming b <+: argumentsFront naming a := by
  cases naming <;> decide +kernel

section Output

variable (s : Schema) (settings : Settings)

theorem argumentsFront_begins {entry : TypeDef × Field} (h : entry ∈ fieldsOfMetaTypes) :
    argumentsFront settings.typeNaming entry <+: (settings.typeNaming.apply entry.2.name ++
      (reflectContext s settings).refer entry.1.name).toList := by
  obtain ⟨d, hd, hentry⟩ := List.mem_flatMap.mp h
  obtain ⟨f, -, rfl⟩ := List.mem_map.mp hentry
  have builtin := not_isBuiltinScalar_of_mem_metaTypes d hd
  have known := (reflectContext s settings).mem_names_refer rfl hd builtin
  obtain ⟨d', -, hname, r, hidentifier⟩ := TypeNames.mem_assign known
  rw [hname] at hidentifier
  have owner := Registry.prefix_available r (settings.typeNaming.apply d.name)
  rw [← hidentifier, Convention.apply, String.toList_ofList] at owner
  rw [String.toList_append, Convention.apply, String.toList_ofList]
  exact (List.prefix_append_right_inj _).mpr owner

/-- A number can never make the names of two argument records of introspection types equal. -/
theorem pairwise_stem_argumentsNames :
    ((reflectContext s settings).argumentsNames Introspection.metaTypes).Pairwise
      fun a b => Registry.stem a ≠ Registry.stem b := by
  have names : (reflectContext s settings).argumentsNames Introspection.metaTypes =
      fieldsOfMetaTypes.map fun entry =>
        (reflectContext s settings).argumentsName entry.1.name entry.2 := by
    simp only [DeclarationContext.argumentsNames, fieldsOfMetaTypes, List.map_flatMap, List.map_map]
    rfl
  rw [names, List.pairwise_map]
  apply (pairwise_argumentsFront settings.typeNaming).imp_of_mem
  intro a b ha hb apart same
  -- Names that end in `Args` are their own stems, so what stands before that is equal, and begins
  -- with both fronts.
  rw [DeclarationContext.argumentsName, DeclarationContext.argumentsName,
    Registry.stem_append _ (by decide), Registry.stem_append _ (by decide),
    List.append_cancel_left_eq, List.reverse_inj] at same
  have front := argumentsFront_begins s settings ha
  have front' := argumentsFront_begins s settings hb
  change (settings.typeNaming.apply a.2.name ++ _).toList = _ at same
  rw [same] at front
  rcases List.prefix_or_prefix_of_prefix front front' with h | h
  · exact apart.1 h
  · exact apart.2 h

/-! ### The result -/

variable {s settings}

/-- Admitting more introspection types adds declarations and changes none. -/
theorem reflectDeclarations_sublist {admits admits' : String → Bool}
    (mono : ∀ name, admits name → admits' name) :
    (reflectDeclarations s settings admits).Sublist (reflectDeclarations s settings admits') := by
  have fewer : (reflectTypes settings admits).Sublist (reflectTypes settings admits') := by
    rw [reflectTypes, reflectTypes, declaredTypes, declaredTypes]
    apply List.monotone_filter_right
    intro d hd
    rw [Bool.and_eq_true, Bool.and_eq_true] at hd ⊢
    exact ⟨⟨hd.1.1, mono _ hd.1.2⟩, hd.2⟩
  have all : (reflectTypes settings admits').Sublist Introspection.metaTypes :=
    List.filter_sublist
  have differ := (pairwise_stem_argumentsNames s settings).sublist (sublist_flatMap all)
  exact (reflectContext s settings).declareAll_sublist differ fewer

/-- Whether all introspection types are declared makes no difference to how a type is. -/
theorem declareAlike_includeIntrospectionTypes (settings : Settings) (all : Bool) :
    settings.DeclareAlike Eq { settings with includeIntrospectionTypes := all } where
  typeNaming := rfl
  enumsOnly := rfl
  each _ _ _ := ⟨rfl, fun _ => rfl⟩

theorem ownDeclarations_includeIntrospectionTypes (all : Bool) :
    (ownDeclarations s { settings with includeIntrospectionTypes := all }).1 =
      (ownDeclarations s settings).1 := by
  have same := declareAlike_includeIntrospectionTypes settings all
  have alike := (same.ownDeclarations (fun _ => rfl) s).1
  rw [List.forall₂_eq_eq_eq] at alike
  exact alike.symm

theorem reflectDeclarations_includeIntrospectionTypes (all : Bool) (admits : String → Bool) :
    reflectDeclarations s { settings with includeIntrospectionTypes := all } admits =
      reflectDeclarations s settings admits := by
  have same := declareAlike_includeIntrospectionTypes settings all
  have alike := same.reflectDeclarations (fun _ => rfl) s admits
  rw [List.forall₂_eq_eq_eq] at alike
  exact alike.symm

/-- If documents can be declared for, so can any that have no other definitions. Their output is
the same but for introspection declarations that it lacks. Both outputs have the declarations of the
schema's own types in front, and lack nothing but introspection declarations of the output with all
of these, whatever the documents are for that. -/
theorem declarations_mono {documents more : List Operation.Document}
    (sub : documents.flatten ⊆ more.flatten) {ds' : List Declaration}
    (h : declarations s more settings = .ok ds') :
    ∃ ds all, declarations s documents settings = .ok ds ∧
      (∀ any, declarations s any { settings with includeIntrospectionTypes := true } = .ok all) ∧
      (∃ admits admits', admittedIntrospection s documents settings = .ok admits ∧
        admittedIntrospection s more settings = .ok admits' ∧
        ds = (ownDeclarations s settings).1 ++ reflectDeclarations s settings admits ∧
        ds' = (ownDeclarations s settings).1 ++ reflectDeclarations s settings admits') ∧
      ds.Sublist ds' ∧ ds.Sublist all ∧ ds'.Sublist all := by
  obtain ⟨admits', hadmits', rfl⟩ := declarations_eq_ok s settings h
  obtain ⟨admits, hadmits, mono⟩ := admittedIntrospection_mono sub hadmits'
  have adds : ∀ {fewer wider : String → Bool}, (∀ name, fewer name → wider name) →
      ((ownDeclarations s settings).1 ++ reflectDeclarations s settings fewer).Sublist
        ((ownDeclarations s settings).1 ++ reflectDeclarations s settings wider) :=
    fun mono => (reflectDeclarations_sublist mono).append_left _
  refine ⟨_, (ownDeclarations s settings).1 ++ reflectDeclarations s settings fun _ => true,
    ?_, ?_, ⟨admits, admits', hadmits, hadmits', rfl, rfl⟩, adds mono, adds fun _ _ => rfl,
    adds fun _ _ => rfl⟩
  · rw [declarations_eq, hadmits]
    rfl
  · intro any
    rw [declarations_eq, ownDeclarations_includeIntrospectionTypes]
    show Except.ok (_ ++ reflectDeclarations s _ _) = _
    rw [reflectDeclarations_includeIntrospectionTypes]

end Output

/-- An operation that asks for the fields of a type, against none. -/
theorem declarations_mono_library :
    ∃ ds', declarations Schema.library
        [[.operation .query [.field "__type" [.field "fields" []]]]] plainSettings = .ok ds' ∧
      ∃ ds all, declarations Schema.library [] plainSettings = .ok ds ∧
        (∀ any, declarations Schema.library any
          { plainSettings with includeIntrospectionTypes := true } = .ok all) ∧
        (∃ admits admits', admittedIntrospection Schema.library [] plainSettings = .ok admits ∧
          admittedIntrospection Schema.library
            [[.operation .query [.field "__type" [.field "fields" []]]]] plainSettings =
              .ok admits' ∧
          ds = (ownDeclarations Schema.library plainSettings).1 ++
            reflectDeclarations Schema.library plainSettings admits ∧
          ds' = (ownDeclarations Schema.library plainSettings).1 ++
            reflectDeclarations Schema.library plainSettings admits') ∧
        ds.Sublist ds' ∧ ds.Sublist all ∧ ds'.Sublist all := by
  have used : Introspection.usedTypes Schema.library Introspection.metaSchema
      [[.operation .query [.field "__type" [.field "fields" []]]]] =
        .ok ["__Type", "__Field"] := by decide +kernel
  obtain ⟨ds', h⟩ := exists_declarations Schema.library plainSettings used
  exact ⟨ds', h, declarations_mono (List.nil_subset _) h⟩

end GraphTypes
