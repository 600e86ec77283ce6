import GraphTypes.Config.Settings
import GraphTypes.Proofs.Config.Grammar
import GraphTypes.Proofs.Dictionary

/-!
# References that were read

A configuration is accepted only if each of its references can be read. What follows the `#` of such
a reference is an identifier, and what follows that, if anything does, begins with an angle bracket;
so the identifier can be read off the front of whatever the reference is written as.
-/

namespace GraphTypes.Config

/-- The form of a symbol that was read: an identifier, and type arguments in angle brackets. -/
structure ExternalRef.WellFormed (ref : ExternalRef) : Prop where
  symbol : isIdentifier ref.symbol.toList
  typeArguments : ∀ c ∈ ref.typeArguments.toList.head?, c = '<'

/-- Whatever a reference takes from another module is well formed. -/
def Reference.WellFormed (reference : Reference) : Prop :=
  ∀ ref, reference = .external ref → ref.WellFormed

namespace Reference

theorem Spells.wellFormed {text : List Char} {reference : Reference} (h : Spells text reference) :
    reference.WellFormed := by
  rintro ref rfl
  cases h with
  | external _ _ _ valid ended =>
    refine ⟨by simpa using valid, ?_⟩
    cases ended <;> simp

theorem wellFormed_of_parse {text : String} {reference : Reference}
    (h : parse text = .ok reference) : reference.WellFormed :=
  (parseTrimmed_eq_ok_iff.mp h).wellFormed

end Reference

/-! ### Settings that were resolved -/

/-- What is reported of a failure does not matter where there is none. -/
theorem eq_ok_of_mapError_eq_ok {ε ε' α : Type} {result : Except ε α} {report : ε → ε'} {a : α}
    (h : result.mapError report = .ok a) : result = .ok a := by
  cases result with
  | error e => cases h
  | ok b => cases h; rfl

theorem wellFormed_of_readMapper {type text : String} {reference : Reference}
    (h : readMapper type text = .ok reference) : reference.WellFormed :=
  Reference.wellFormed_of_parse (eq_ok_of_mapError_eq_ok h)

theorem wellFormed_of_readReference {text : Option String} {reference : Reference}
    (h : readReference text = .ok (some reference)) : reference.WellFormed := by
  cases text with
  | none => cases h
  | some text =>
    rw [readReference] at h
    cases hread : (Reference.parse text).mapError ConfigError.reference with
    | error e => rw [hread] at h; cases h
    | ok read =>
      rw [hread] at h
      cases h
      exact Reference.wellFormed_of_parse (eq_ok_of_mapError_eq_ok hread)

/-- All references of settings are well formed. -/
structure Settings.WellFormed (settings : Settings) : Prop where
  mappers : ∀ entry ∈ settings.mappers.entries, entry.2.WellFormed
  defaultMapper : ∀ reference ∈ settings.defaultMapper, reference.WellFormed
  contextType : ∀ reference ∈ settings.contextType, reference.WellFormed

/-- A chain of steps that succeeds has a first step that does. -/
theorem exists_of_bind_eq_ok {ε α β : Type} {first : Except ε α} {next : α → Except ε β} {b : β}
    (h : first >>= next = .ok b) : ∃ a, first = .ok a ∧ next a = .ok b := by
  cases first with
  | error e => cases h
  | ok a => exact ⟨a, rfl, h⟩

/-- Every check of options passes. What it makes of its part of them is that part of the settings,
and what is not checked is taken over. -/
structure Options.Passes (o : Options) (settings : Settings) : Prop where
  naming : conventions o.namingConvention = .ok (settings.typeNaming, settings.enumValueNaming)
  enumStyle : Config.enumStyle o.constEnums o.enumsAsTypes = .ok settings.enumStyle
  maybeValue : maybeTemplate o.maybeValue = .ok settings.maybeValue
  generateOnly : selectsEnums o.generateOnly = .ok settings.enumsOnly
  mappers : o.mappers.traverse readMapper = .ok settings.mappers
  defaultMapper : readReference o.defaultMapper = .ok settings.defaultMapper
  contextType : readReference o.contextType = .ok settings.contextType
  scalars : settings.scalars = o.scalars
  defaultScalarType : settings.defaultScalarType = o.defaultScalarType.getD "any"
  avoidOptionals : settings.avoidOptionals = o.avoidOptionals
  immutableTypes : settings.immutableTypes = o.immutableTypes
  exported : settings.exported = !o.noExport
  includeIntrospectionTypes : settings.includeIntrospectionTypes = o.includeIntrospectionTypes

theorem Options.resolve_eq_ok_iff_passes {o : Options} {settings : Settings} :
    o.resolve = .ok settings ↔ o.Passes settings := by
  constructor
  · intro h
    rw [resolve] at h
    obtain ⟨naming, hnaming, h⟩ := exists_of_bind_eq_ok h
    obtain ⟨style, hstyle, h⟩ := exists_of_bind_eq_ok h
    obtain ⟨maybe, hmaybe, h⟩ := exists_of_bind_eq_ok h
    obtain ⟨only, honly, h⟩ := exists_of_bind_eq_ok h
    obtain ⟨mappers, hmappers, h⟩ := exists_of_bind_eq_ok h
    obtain ⟨defaultMapper, hdefault, h⟩ := exists_of_bind_eq_ok h
    obtain ⟨contextType, hcontext, h⟩ := exists_of_bind_eq_ok h
    cases h
    exact ⟨hnaming, hstyle, hmaybe, honly, hmappers, hdefault, hcontext, rfl, rfl, rfl, rfl, rfl,
      rfl⟩
  · intro h
    rw [resolve, h.naming, h.enumStyle, h.maybeValue, h.generateOnly, h.mappers, h.defaultMapper,
      h.contextType]
    obtain ⟨⟩ := settings
    obtain ⟨-, -, -, -, -, -, -, rfl, rfl, rfl, rfl, rfl, rfl⟩ := h
    rfl

/-- Options that are accepted give settings whose references are well formed. -/
theorem Options.wellFormed_of_resolve {options : Options} {settings : Settings}
    (h : options.resolve = .ok settings) : settings.WellFormed := by
  have passes := resolve_eq_ok_iff_passes.mp h
  refine ⟨?_, ?_, ?_⟩
  · rintro ⟨type, reference⟩ hmem
    obtain ⟨text, hread⟩ := Dictionary.mem_traverse passes.mappers hmem
    exact wellFormed_of_readMapper hread
  · intro reference given
    exact wellFormed_of_readReference (given ▸ passes.defaultMapper)
  · intro reference given
    exact wellFormed_of_readReference (given ▸ passes.contextType)

end GraphTypes.Config
