import GraphTypes.Proofs.Declaration.References
import GraphTypes.Proofs.Resolver.Structure

/-!
# What is written for references

Whatever the resolvers' code writes for a reference to another module begins with the local name
that the reference claimed. The printed import table is that of the claims with the symbols of the
GraphQL runtime entered over it, each under its own name.
-/

namespace GraphTypes

open Config Name Sdl TypeScript

/-! ### References in effect -/

section

variable {s : Schema} {settings : Settings} {ref : ExternalRef}

theorem external?_eq_some_iff {reference : Reference} :
    reference.external? = some ref ↔ reference = .external ref := by
  cases reference <;> simp [Reference.external?]

/-- A reference is in effect as the type of the context, as the default mapper, or as the mapper of
a type that the schema declares. -/
theorem mem_externalsInEffect :
    ref ∈ externalsInEffect s settings ↔
      settings.contextType = some (.external ref) ∨
        settings.defaultMapper = some (.external ref) ∨
          ∃ type, s.contains type ∧ settings.mappers.get? type = some (.external ref) := by
  simp only [externalsInEffect, referencesInEffect, List.mem_filterMap, external?_eq_some_iff,
    exists_eq_right, List.mem_append, Option.mem_toList, List.mem_map, List.mem_filter,
    Dictionary.get?_eq_some_iff, or_assoc]
  refine or_congr_right (or_congr_right ?_)
  constructor
  · rintro ⟨⟨type, reference⟩, ⟨hmem, declared⟩, rfl⟩
    exact ⟨type, declared, hmem⟩
  · rintro ⟨type, declared, hmem⟩
    exact ⟨(type, .external ref), ⟨hmem, declared⟩, rfl⟩

theorem wellFormed_of_mem_externalsInEffect (wellFormed : settings.WellFormed)
    (h : ref ∈ externalsInEffect s settings) : ref.WellFormed := by
  rcases mem_externalsInEffect.mp h with h | h | ⟨type, -, h⟩
  · exact wellFormed.contextType _ h ref rfl
  · exact wellFormed.defaultMapper _ h ref rfl
  · exact wellFormed.mappers _ (Dictionary.get?_eq_some_iff.mp h) ref rfl

end

/-! ### What is written for a reference -/

/-- The expressions that a module has for a reference: as what the context is by default, as what
the resolvers of an object belong to, as what they yield, and as what a value of an interface or a
union may be. -/
inductive ResolverModule.Writes (m : ResolverModule) (s : Schema) (settings : Settings)
    (ref : ExternalRef) : String → Prop
  | context (h : settings.contextType = some (.external ref)) :
    Writes m s settings ref m.contextDefault
  | parent (ns : ObjectNamespace) (hns : .object ns ∈ m.items)
    (h : replacement? s settings ns.type = some (.external ref)) :
    Writes m s settings ref ns.parent
  | result (ns : ObjectNamespace) (hns : .object ns ∈ m.items) (d : TypeDef)
    (hd : s.get? ns.type = some d) (f : Field) (resolver : FieldResolver)
    (hf : (f, resolver) ∈ d.fields.zip ns.fields)
    (h : replacement? s settings f.type.innermost = some (.external ref)) :
    Writes m s settings ref resolver.result.leafText
  | member (ns : AbstractNamespace) (hns : .abstract ns ∈ m.items) (type expression : String)
    (hmem : (type, expression) ∈ ns.members)
    (h : replacement? s settings type = some (.external ref)) :
    Writes m s settings ref expression

namespace ResolverContext

variable {c : ResolverContext} {type : String} {reference : Reference}

theorem mapped_eq (h : replacement? c.schema c.settings type = some reference) :
    c.mapped type = c.imports.expression reference (c.refer type) := by
  rw [mapped, h]

theorem mapped_eq_refer (h : replacement? c.schema c.settings type = none) :
    c.mapped type = c.refer type := by
  rw [mapped, h]

/-- A type that is replaced is never one that has no values where an operation starts. -/
theorem parentOf_eq (h : replacement? c.schema c.settings type = some reference) :
    c.parentOf type = c.imports.expression reference (c.refer type) := by
  have started : ¬ (c.schema.isRoot type && !c.settings.mappers.contains type) := by
    intro hroot
    rw [Bool.and_eq_true, Bool.not_eq_true'] at hroot
    have unmapped : c.settings.mappers.get? type = none := by
      simpa [Dictionary.contains] using hroot.2
    rw [replacement?, unmapped] at h
    simp [hroot.1] at h
  rw [parentOf, if_neg started, mapped_eq h]

end ResolverContext

section

variable {s : Schema} {settings : Settings} {ref : ExternalRef}

/-- An object or a union of the output with the type it is made from. -/
theorem exists_of_mem_resolverItems {item : ResolverItem}
    (h : item ∈ resolverItems s settings) :
    ∃ d ∈ s.types, ∃ name r, (resolverContext s settings).item? d name r = some item := by
  obtain ⟨d, hd, r', -, made⟩ := (resolverContext s settings).exists_of_mem_items h
  exact ⟨d, resolverTypes_subset s hd, _, _, made⟩

/-- What is written for a reference begins with the name that the reference claimed. -/
theorem leadingName_of_writes {localName expression : String} (wellFormed : ref.WellFormed)
    (hname : Imports.IsName localName)
    (hlocal : (claimedImports s settings).1.localName? ref = some localName)
    (h : (resolverOutput s settings).Writes s settings ref expression) :
    Imports.leadingName expression = localName := by
  -- At every place but the first the reference replaces a type, whose identifier is filled in.
  have filled : ∀ identifier, Imports.leadingName
      ((resolverContext s settings).imports.expression (.external ref) identifier) = localName :=
    Imports.leadingName_expression wellFormed hname hlocal
  cases h with
  | context hcontext =>
    show Imports.leadingName
      ((settings.contextType.map (claimedImports s settings).1.template).getD "\x7b\x7d") = _
    rw [hcontext]
    exact Imports.leadingName_template wellFormed hname hlocal
  | parent ns hns hreplaced =>
    obtain ⟨d, -, name, r, made⟩ := exists_of_mem_resolverItems hns
    obtain rfl := ResolverContext.objectNamespace_of_item? made
    show Imports.leadingName ((resolverContext s settings).parentOf d.name) = _
    rw [ResolverContext.parentOf_eq hreplaced]
    exact filled _
  | result ns hns e he f resolver hf hreplaced =>
    obtain ⟨d, hd, name, r, made⟩ := exists_of_mem_resolverItems hns
    obtain rfl := ResolverContext.objectNamespace_of_item? made
    -- The names of types are unique, so the fields are those that the namespace was made from.
    have same : e = d := Option.some.inj (he.symm.trans (Schema.get?_of_mem hd))
    subst same
    have aligned := ResolverContext.forall₂_fieldResolvers (c := resolverContext s settings)
      e.fields (r.claim "Resolvers").2
    rw [((List.forall₂_iff_zip.mp aligned).2 hf).2, Ty.leafText_ofTypeExpr,
      ResolverContext.mapped_eq hreplaced]
    exact filled _
  | member ns hns type _ hmem hreplaced =>
    obtain ⟨d, -, name, r, made⟩ := exists_of_mem_resolverItems hns
    obtain ⟨members, rfl⟩ := ResolverContext.abstractNamespace_of_item? made
    obtain ⟨m, -, heq⟩ := List.mem_map.mp hmem
    cases heq
    rw [ResolverContext.parentOf_eq hreplaced]
    exact filled _

end

/-! ### Local names -/

section

variable (s : Schema) (settings : Settings) {ref : ExternalRef}

/-- What is claimed for a symbol is one name. -/
theorem isName_of_localName?_claimedImports {localName : String} (wellFormed : ref.WellFormed)
    (claimed : (claimedImports s settings).1.localName? ref = some localName) :
    Imports.IsName localName := by
  rcases Imports.claimed_of_localName?_addAll claimed with before | ⟨-, r', -, rfl⟩
  · cases before
  · have symbol := Imports.isName_of_isIdentifier wellFormed.symbol
    exact Imports.isName_available (Imports.isName_wantedName symbol)

/-- In the printed imports the symbols of the GraphQL runtime go by their own names, all others by
those they claimed. -/
theorem localName?_printedImports (ref : ExternalRef) :
    (printedImports s settings).localName? ref =
      if ref.modulePath = graphqlModule ∧
          ref.symbol ∈ runtimeSymbols (resolverItems s settings) then some ref.symbol
      else (claimedImports s settings).1.localName? ref :=
  Imports.localName?_addPlain

theorem runtimeSymbols_subset (items : List ResolverItem) :
    runtimeSymbols items ⊆ [resolveInfo, scalarType, scalarTypeConfig] := by
  rw [runtimeSymbols]
  split <;> simp

end

end GraphTypes
