import GraphTypes.Proofs.Resolver.Lookup
import GraphTypes.Proofs.Resolver.References
import GraphTypes.Proofs.Resolver.Template

/-!
# What stands for a type in the resolvers' code

A mapper replaces the one type it is for; the default mapper replaces all other objects, interfaces
and unions that no operation starts from. `StandsFor` and `BelongsTo` state this as rules.
`standsFor_iff` and `belongsTo_iff` say that for every type that a faultless schema mentions there
is a rule, that the rules allow one text only, and that the resolvers' code has this text.
-/

namespace GraphTypes

open Config Name Sdl TypeScript

/-! ### The rules -/

section Rules

variable (s : Schema) (settings : Settings)

/-- A text is the expression of a reference with the identifier of a type filled in. -/
def Replaces (type : String) (reference : Reference) (text : String) : Prop :=
  ∃ template identifier, (claimedImports s settings).1.IsTemplate reference template ∧
    (ownNames s settings).1.identifier? type = some identifier ∧
    Imports.Filled identifier.toList template.toList text.toList

/-- A type that the default mapper is meant for: an object, an interface or a union, and no root
type. -/
def TakesDefault (type : String) : Prop :=
  type ∉ s.roots.names ∧
    ∃ d ∈ s.types, d.name = type ∧ (d.kind = .object ∨ d.kind = .interface ∨ d.kind = .union)

/-- What stands for a type, by the first rule that applies: the TypeScript type of a built-in
scalar, the mapper for the type, the default mapper if the type takes it, the identifier. -/
inductive StandsFor (type : String) : String → Prop
  | builtin (scalar : isBuiltinScalar type) : StandsFor type (settings.scalarType type)
  | mapper {reference : Reference} {text : String} (named : ¬ isBuiltinScalar type)
    (own : settings.mappers.get? type = some reference)
    (replaces : Replaces s settings type reference text) : StandsFor type text
  | defaultMapper {reference : Reference} {text : String} (named : ¬ isBuiltinScalar type)
    (unmapped : settings.mappers.get? type = none) (takes : TakesDefault s type)
    (general : settings.defaultMapper = some reference)
    (replaces : Replaces s settings type reference text) : StandsFor type text
  | identifier {identifier : String} (named : ¬ isBuiltinScalar type)
    (unmapped : settings.mappers.get? type = none)
    (kept : TakesDefault s type → settings.defaultMapper = none)
    (assigned : (ownNames s settings).1.identifier? type = some identifier) :
    StandsFor type identifier

/-- What the resolvers of a type belong to: to nothing yet if an operation starts from the type and
it has no mapper of its own, else to what stands for the type. -/
inductive BelongsTo (type : String) : String → Prop
  | start (root : type ∈ s.roots.names) (unmapped : settings.mappers.get? type = none) :
    BelongsTo type "\x7b\x7d"
  | value {text : String} (apart : ¬ (type ∈ s.roots.names ∧ settings.mappers.get? type = none))
    (stands : StandsFor s settings type text) : BelongsTo type text

end Rules

/-! ### The resolvers' code follows the rules -/

section

variable {s : Schema} {settings : Settings} {type text identifier : String}
  {reference : Reference}

theorem takesDefault_iff :
    TakesDefault s type ↔ (s.kind? type).any Kind.isComposite && !s.isRoot type := by
  have kinds : ∀ kind : Kind, kind.isComposite ↔
      kind = .object ∨ kind = .interface ∨ kind = .union := by
    intro kind
    cases kind <;> simp [Kind.isComposite]
  have composite : (s.kind? type).any Kind.isComposite ↔
      ∃ d ∈ s.types, d.name = type ∧
        (d.kind = .object ∨ d.kind = .interface ∨ d.kind = .union) := by
    simp only [← kinds, Schema.kind?, Option.any_map, Option.any_eq_true]
    constructor
    · rintro ⟨d, found, fits⟩
      obtain ⟨hd, hname⟩ := Schema.mem_of_lookup? found
      exact ⟨d, hd, hname, fits⟩
    · rintro ⟨d, hd, rfl, fits⟩
      exact ⟨d, Schema.get?_of_mem hd, fits⟩
  have root : s.isRoot type ↔ type ∈ s.roots.names := by
    rw [Schema.isRoot, List.contains_iff_mem]
  rw [TakesDefault, Bool.and_eq_true, Bool.not_eq_true', ← Bool.not_eq_true, root, composite,
    and_comm]

theorem exists_identifier? (settings : Settings) {d : TypeDef} (hd : d ∈ s.types)
    (named : ¬ isBuiltinScalar d.name) :
    ∃ identifier, (ownNames s settings).1.identifier? d.name = some identifier :=
  Option.isSome_iff_exists.mp (TypeNames.isSome_identifier?_assign hd named)

theorem contains_of_identifier?
    (h : (ownNames s settings).1.identifier? type = some identifier) : s.contains type := by
  obtain ⟨d, hd, hname, -⟩ := TypeNames.mem_assign (TypeNames.mem_of_identifier? h)
  exact Schema.contains_iff.mpr ⟨d, hd, hname⟩

theorem refer_eq_identifier (named : ¬ isBuiltinScalar type)
    (h : (ownNames s settings).1.identifier? type = some identifier) :
    (resolverContext s settings).refer type = identifier := by
  show (ownNames s settings).1.refer settings type = identifier
  rw [TypeNames.refer, if_neg named, h, Option.getD_some]

theorem Replaces.contains (h : Replaces s settings type reference text) : s.contains type := by
  obtain ⟨_, _, -, assigned, -⟩ := h
  exact contains_of_identifier? assigned

theorem Replaces.eq_expression (h : Replaces s settings type reference text)
    (named : ¬ isBuiltinScalar type) :
    (resolverContext s settings).imports.expression reference
      ((resolverContext s settings).refer type) = text := by
  obtain ⟨template, identifier, ht, assigned, filled⟩ := h
  have template_eq : (resolverContext s settings).imports.template reference = template :=
    ht.eq_template
  rw [Imports.expression, refer_eq_identifier named assigned, template_eq,
    Imports.filled_iff.mp filled, String.ofList_toList]

/-- Where a rule applies, the resolvers' code has what the rule says. -/
theorem StandsFor.eq_mapped (h : StandsFor s settings type text) :
    (resolverContext s settings).mapped type = text := by
  cases h with
  | builtin scalar =>
    have kept : replacement? s settings type = none := by simp [replacement?, scalar]
    rw [ResolverContext.mapped_eq_refer kept]
    show (ownNames s settings).1.refer settings type = _
    rw [TypeNames.refer, if_pos scalar]
  | @mapper reference _ named own replaces =>
    have replaced : replacement? s settings type = some reference := by
      simp [replacement?, named, replaces.contains, own]
    rw [ResolverContext.mapped_eq replaced, replaces.eq_expression named]
  | @defaultMapper reference _ named unmapped takes general replaces =>
    have replaced : replacement? s settings type = some reference := by
      simp only [replacement?, named, replaces.contains, unmapped, takesDefault_iff.mp takes]
      exact general
    rw [ResolverContext.mapped_eq replaced, replaces.eq_expression named]
  | identifier named unmapped kept assigned =>
    have own : replacement? s settings type = none := by
      simp only [replacement?, named, contains_of_identifier? assigned, unmapped]
      by_cases takes : TakesDefault s type
      · simpa [takesDefault_iff.mp takes] using kept takes
      · simp [mt takesDefault_iff.mpr takes]
    rw [ResolverContext.mapped_eq_refer own]
    exact refer_eq_identifier named assigned

/-- A reference in effect has an expression, and so has what it replaces. -/
theorem exists_replaces {d : TypeDef} (hd : d ∈ s.types) (named : ¬ isBuiltinScalar d.name)
    (effect : ∀ ref, reference = .external ref → ref ∈ externalsInEffect s settings) :
    ∃ text, Replaces s settings d.name reference text := by
  have template : ∃ template, (claimedImports s settings).1.IsTemplate reference template := by
    cases reference with
    | inline text => exact ⟨text, .inline text⟩
    | external ref =>
      obtain ⟨localName, imported⟩ := exists_localName?_claimedImports s settings (effect ref rfl)
      exact ⟨_, .external imported⟩
  obtain ⟨template, ht⟩ := template
  obtain ⟨identifier, assigned⟩ := exists_identifier? settings hd named
  refine ⟨String.ofList (Imports.fillIn identifier.toList template.toList), template, identifier,
    ht, assigned, ?_⟩
  rw [Imports.filled_iff, String.toList_ofList]

/-- For a type that a faultless schema mentions there is always a rule. -/
theorem exists_standsFor (settings : Settings)
    (h : isBuiltinScalar type ∨ ∃ d ∈ s.types, d.name = type) :
    ∃ text, StandsFor s settings type text := by
  by_cases named : isBuiltinScalar type
  · exact ⟨_, .builtin named⟩
  · obtain ⟨d, hd, rfl⟩ := h.resolve_left named
    cases own : settings.mappers.get? d.name with
    | some reference =>
      have effect : ∀ ref, reference = .external ref → ref ∈ externalsInEffect s settings := by
        rintro ref rfl
        have declared : s.contains d.name := Schema.contains_iff.mpr ⟨d, hd, rfl⟩
        exact mem_externalsInEffect.mpr (Or.inr (Or.inr ⟨d.name, declared, own⟩))
      obtain ⟨text, replaces⟩ := exists_replaces hd named effect
      exact ⟨text, .mapper named own replaces⟩
    | none =>
      -- The last two rules divide what is left between them.
      by_cases general : TakesDefault s d.name ∧ settings.defaultMapper ≠ none
      · obtain ⟨takes, given⟩ := general
        obtain ⟨reference, general⟩ := Option.ne_none_iff_exists'.mp given
        have effect : ∀ ref, reference = .external ref → ref ∈ externalsInEffect s settings := by
          rintro ref rfl
          exact mem_externalsInEffect.mpr (Or.inr (Or.inl general))
        obtain ⟨text, replaces⟩ := exists_replaces hd named effect
        exact ⟨text, .defaultMapper named own takes general replaces⟩
      · obtain ⟨identifier, assigned⟩ := exists_identifier? settings hd named
        refine ⟨identifier, .identifier named own ?_ assigned⟩
        intro takes
        exact not_not.mp fun given => general ⟨takes, given⟩

/-- Where resolvers yield a type, it is written as the rules say, and they say one thing only. -/
theorem standsFor_iff (h : isBuiltinScalar type ∨ ∃ d ∈ s.types, d.name = type) :
    StandsFor s settings type text ↔ text = (resolverContext s settings).mapped type := by
  constructor
  · intro stands
    exact stands.eq_mapped.symm
  · rintro rfl
    obtain ⟨text, stands⟩ := exists_standsFor settings h
    rwa [stands.eq_mapped]

/-- What the resolvers of a type belong to is written as the rules say, and they say one thing
only. -/
theorem belongsTo_iff (h : isBuiltinScalar type ∨ ∃ d ∈ s.types, d.name = type) :
    BelongsTo s settings type text ↔ text = (resolverContext s settings).parentOf type := by
  have starts : s.isRoot type && !settings.mappers.contains type ↔
      type ∈ s.roots.names ∧ settings.mappers.get? type = none := by
    simp [Schema.isRoot, Dictionary.contains]
  -- The rule for what an operation starts from comes first, as its test does in the code.
  have parent : (resolverContext s settings).parentOf type =
      if s.isRoot type && !settings.mappers.contains type then "\x7b\x7d"
      else (resolverContext s settings).mapped type := rfl
  rw [parent]
  split
  · next root =>
    have root := starts.mp root
    constructor
    · rintro (_ | ⟨apart, -⟩)
      · rfl
      · exact absurd root apart
    · rintro rfl
      exact .start root.1 root.2
  · next apart =>
    have apart := mt starts.mpr apart
    rw [← standsFor_iff h]
    constructor
    · rintro (⟨root, unmapped⟩ | ⟨-, stands⟩)
      · exact absurd ⟨root, unmapped⟩ apart
      · exact stands
    · exact .value apart

end

/-- A built-in scalar, a type with a mapper, types that take the default mapper, and two that do
not. -/
example :
    let c := resolverContext Schema.library
      { plainSettings with
        mappers := Dictionary.empty.insert "Book" (.inline "Model<\x7bT\x7d>")
        defaultMapper := some (.inline "Partial<\x7bT\x7d>") }
    ["ID", "Book", "Author", "Result", "Query", "Date"].map c.mapped =
        ["string", "Model<Book>", "Partial<Author>", "Partial<Result>", "Query", "Date"] ∧
      c.parentOf "Query" = "\x7b\x7d" := by decide +kernel

end GraphTypes
