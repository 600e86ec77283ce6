import GraphTypes.Proofs.Declaration.Documents
import GraphTypes.Proofs.Generator

/-!
# Only the set of definitions matters

Documents are walked in order and what they use is found in order, but no order gets through to the
output: which introspection types are declared is a set, and they are declared in the order of their
schema. So documents can be reordered, repeated, split and joined. What may change is only which of
several faults is reported.
-/

namespace GraphTypes

open Config

/-! ### Computations that differ in their errors only -/

/-- Two computations yield the same, or both fail, with whatever errors. -/
inductive SameOutcome {ε α : Type} : Except ε α → Except ε α → Prop
  | ok (a : α) : SameOutcome (.ok a) (.ok a)
  | error (e e' : ε) : SameOutcome (.error e) (.error e')

namespace SameOutcome

variable {ε ε' α β : Type} {first second : Except ε α}

theorem refl (result : Except ε α) : SameOutcome result result := by
  cases result with
  | ok a => exact .ok a
  | error e => exact .error e e

theorem eq_ok {a : α} (h : SameOutcome first second) (yields : first = .ok a) :
    second = .ok a := by
  cases h with
  | ok => exact yields
  | error => cases yields

theorem bind {next next' : α → Except ε β} (h : SameOutcome first second)
    (same : ∀ a, SameOutcome (next a) (next' a)) :
    SameOutcome (first >>= next) (second >>= next') := by
  cases h with
  | ok a => exact same a
  | error e e' => exact .error e e'

theorem map (f : α → β) (h : SameOutcome first second) :
    SameOutcome (first.map f) (second.map f) := by
  cases h with
  | ok a => exact .ok (f a)
  | error e e' => exact .error e e'

theorem mapError (f : ε → ε') (h : SameOutcome first second) :
    SameOutcome (first.mapError f) (second.mapError f) := by
  cases h with
  | ok a => exact .ok a
  | error e e' => exact .error (f e) (f e')

end SameOutcome

/-! ### From the documents to the output -/

section Documents

variable {documents rearranged : List Operation.Document}
  (same : ∀ d, d ∈ documents.flatten ↔ d ∈ rearranged.flatten)

include same

/-- The same introspection types are admitted: each side admits what the other does. -/
theorem sameOutcome_admittedIntrospection (s : Schema) (settings : Settings) :
    SameOutcome (admittedIntrospection s documents settings)
      (admittedIntrospection s rearranged settings) := by
  have sub : documents.flatten ⊆ rearranged.flatten := fun d => (same d).mp
  have sub' : rearranged.flatten ⊆ documents.flatten := fun d => (same d).mpr
  cases accepted : admittedIntrospection s rearranged settings with
  | ok admits' =>
    obtain ⟨admits, hadmits, mono⟩ := admittedIntrospection_mono sub accepted
    obtain ⟨_, hadmits', mono'⟩ := admittedIntrospection_mono sub' hadmits
    rw [accepted] at hadmits'
    cases hadmits'
    have equal : admits = admits' := by
      funext name
      exact Bool.eq_iff_iff.mpr ⟨mono name, mono' name⟩
    rw [hadmits, equal]
    exact .ok admits'
  | error e' =>
    cases accepted' : admittedIntrospection s documents settings with
    | ok admits =>
      obtain ⟨admits', hadmits', -⟩ := admittedIntrospection_mono sub' accepted'
      rw [accepted] at hadmits'
      cases hadmits'
    | error e => exact .error e e'

theorem sameOutcome_runTypes (s : Schema) (options : Options) :
    SameOutcome (Generator.runTypes s documents options)
      (Generator.runTypes s rearranged options) := by
  apply SameOutcome.bind (.refl _)
  intro settings
  apply SameOutcome.bind
  · rw [declarations_eq, declarations_eq]
    exact ((sameOutcome_admittedIntrospection same s settings).map _).mapError _
  · intro ds
    exact .refl _

/-- Whichever kind of code is generated, documents that have the same definitions give the same
output, down to the last character, or it cannot be generated for either. -/
theorem sameOutcome_run (s : Schema) (options : Options) (g : Generator) :
    SameOutcome (g.run s documents options) (g.run s rearranged options) := by
  cases g with
  | types => exact sameOutcome_runTypes same s options
  | resolvers => exact .refl _

end Documents

/-- Two operations, against the same ones in the other order, apart, and one of them repeated. -/
theorem sameOutcome_run_library :
    let types := Operation.Definition.operation .query [.field "__type" [.field "fields" []]]
    let schema := Operation.Definition.operation .query [.field "__schema" []]
    (∀ d, d ∈ [[types, schema]].flatten ↔ d ∈ [[schema], [], [types, schema]].flatten) ∧
      ∃ output, Generator.types.run Schema.library [[types, schema]] {} = .ok output ∧
        Generator.types.run Schema.library [[schema], [], [types, schema]] {} = .ok output := by
  intro types schema
  have same : ∀ d, d ∈ [[types, schema]].flatten ↔ d ∈ [[schema], [], [types, schema]].flatten := by
    intro d
    simp [or_comm]
  have used : Introspection.usedTypes Schema.library Introspection.metaSchema [[types, schema]] =
      .ok ["__Type", "__Field", "__Schema"] := by decide +kernel
  obtain ⟨ds, made⟩ := exists_declarations Schema.library plainSettings used
  have generated : Generator.types.run Schema.library [[types, schema]] {} = .ok _ :=
    Generator.runTypes_eq rfl made
  have outcome := sameOutcome_run same Schema.library {} .types
  exact ⟨same, _, generated, outcome.eq_ok generated⟩

end GraphTypes
