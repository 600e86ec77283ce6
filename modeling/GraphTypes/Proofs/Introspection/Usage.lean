import GraphTypes.Introspection.Meta
import GraphTypes.Proofs.Introspection.Closure
import GraphTypes.Proofs.Introspection.Reach

/-!
# The used introspection types are exact

`usedTypes` finds the introspection types that documents use, in the order in which they first use
them, unless a definition is at fault.

`exact_usedBy` and `exact_usedByAll` are the two halves of one induction on selections: what the
scan makes of a selection, or of several, is exact. The same for a definition (`exact_usedIn`) and
for several (`exact_usedInAll`) follows, and with it the result.
-/

namespace GraphTypes.Introspection

open Operation

/-! ### The scan of selections is exact -/

section

variable (s reflect : Schema)

theorem exact_asUsed {parent field type : String}
    (resolves : fieldType? s reflect parent field = some type) :
    Exact (fun _ => False)
      (fun p n => p = [0] ∧ isReflection n ∧ reflect.contains n ∧
        fieldType? s reflect parent field = some n)
      (.ok (asUsed reflect type)) := by
  refine ⟨fun _ => id, ?_⟩
  rw [asUsed]
  split
  · next used =>
    rw [Bool.and_eq_true] at used
    refine ⟨[([0], type)], rfl, List.pairwise_singleton _ _, ?_⟩
    intro p n
    simp only [List.mem_singleton, Prod.mk.injEq, resolves, Option.some.injEq]
    constructor
    · rintro ⟨rfl, rfl⟩
      exact ⟨rfl, used.1, used.2, rfl⟩
    · rintro ⟨rfl, -, -, rfl⟩
      exact ⟨rfl, rfl⟩
  · next unused =>
    apply Lists.nil
    rintro p n ⟨-, hr, hc, htype⟩
    rw [resolves] at htype
    obtain rfl := Option.some.inj htype
    rw [hr, hc] at unused
    exact unused rfl

/-- A type condition that is checked first adds the fault that it is unknown. -/
theorem Exact.check {fault : SchemaError → Prop} {occurs : List Nat → String → Prop}
    {result : Except SchemaError (List String)} (h : Exact fault occurs result)
    (condition : String) :
    Exact (fun e => ¬ IsKnown s reflect condition ∧ e = .unknownType condition "type condition" ∨
        fault e) occurs (do checkCondition s reflect condition; result) := by
  rw [checkCondition]
  by_cases known : IsKnown s reflect condition
  · have passed : s.contains condition || reflect.contains condition := by
      rw [Bool.or_eq_true]
      exact known
    rw [if_pos passed]
    apply h.congr
    · intro e
      simp [known]
    · intro p n
      exact Iff.rfl
  · have failed : ¬ (s.contains condition || reflect.contains condition) := by
      rw [Bool.or_eq_true]
      exact known
    rw [if_neg failed]
    exact Or.inl ⟨known, rfl⟩

mutual

theorem exact_usedBy (parent : String) : (selection : Selection) →
    Exact (FaultIn s reflect parent [selection]) (UsesIn s reflect parent [selection])
      (usedBy s reflect parent selection)
  | .field name inner => by
    rw [usedBy]
    cases resolves : fieldType? s reflect parent name with
    | none =>
      apply Exact.nil
      · simp [faultIn_singleton_iff, opens_field_iff, resolves]
      · simp [usesIn_singleton_iff, opens_field_iff, resolves]
    | some type =>
      -- The type of the field itself comes before all that is used inside.
      have inside := (exact_usedByAll type inner).move (0 :: ·) cons_lt_cons_self
      refine ((exact_asUsed s reflect resolves).append inside ?_).congr ?_ ?_
      · rintro _ _ n m ⟨rfl, -⟩ ⟨q, rfl, hq⟩
        exact singleton_lt_cons hq.position_ne_nil
      · simp [faultIn_singleton_iff, opens_field_iff, resolves, and_assoc]
      · simp [usesIn_singleton_iff, opens_field_iff, resolves, and_assoc]
  | .inlineFragment none inner => by
    rw [usedBy]
    apply ((exact_usedByAll parent inner).move (0 :: ·) cons_lt_cons_self).congr
    · simp [faultIn_singleton_iff, opens_fragment_iff, and_assoc]
    · simp [usesIn_singleton_iff, opens_fragment_iff, and_assoc]
  | .inlineFragment (some condition) inner => by
    rw [usedBy]
    apply (((exact_usedByAll condition inner).move (0 :: ·) cons_lt_cons_self).check
      s reflect condition).congr
    · simp [faultIn_singleton_iff, opens_fragment_iff, and_assoc]
    · simp [usesIn_singleton_iff, opens_fragment_iff, and_assoc]
  | .spread fragment => by
    rw [usedBy]
    apply Exact.nil
    · simp [faultIn_singleton_iff, not_opens_spread]
    · simp [usesIn_singleton_iff, not_opens_spread]

theorem exact_usedByAll (parent : String) : (selections : List Selection) →
    Exact (FaultIn s reflect parent selections) (UsesIn s reflect parent selections)
      (usedByAll s reflect parent selections)
  | [] => by
    rw [usedByAll]
    apply Exact.nil
    · simp [FaultIn, not_reaches_nil]
    · simp [UsesIn, not_reaches_nil]
  | first :: rest => by
    rw [usedByAll]
    have others := (exact_usedByAll parent rest).move later later_lt_later
    refine ((exact_usedBy parent first).append others ?_).congr ?_ ?_
    · rintro p _ n m hp ⟨q, rfl, hq⟩
      have front : ∃ p', p = 0 :: p' := by
        rcases usesIn_singleton_iff.mp hp with ⟨rfl, -⟩ | ⟨-, -, -, p', rfl, -⟩
        · exact ⟨[], rfl⟩
        · exact ⟨p', rfl⟩
      obtain ⟨p', rfl⟩ := front
      exact cons_lt_later hq.position_ne_nil
    · intro e
      exact faultIn_cons_iff.symm
    · intro p n
      exact usesIn_cons_iff.symm

end

/-! ### The scan of definitions is exact -/

/-- A definition uses an introspection type at a position. -/
def DefinitionUses (d : Definition) (position : List Nat) (name : String) : Prop :=
  ∃ parent selections, Starts s d parent selections ∧
    UsesIn s reflect parent selections position name

theorem exact_usedIn (d : Definition) :
    Exact (Faulty s reflect d) (DefinitionUses s reflect d) (usedIn s reflect d) := by
  cases d with
  | operation kind selections =>
    rw [usedIn]
    cases declared : s.root? kind with
    | none => exact .missingRoot selections declared
    | some root =>
      apply (exact_usedByAll s reflect root selections).congr
      · intro e
        constructor
        · rintro ⟨p, on, c, inner, reached, unknown, rfl⟩
          exact .inlineFragment (.operation selections declared) reached unknown
        · rintro (⟨_, missing⟩ | _ | ⟨⟨_, root'⟩ | _, reached, unknown⟩)
          · rw [declared] at missing
            cases missing
          · rw [declared] at root'
            obtain rfl := Option.some.inj root'
            exact ⟨_, _, _, _, reached, unknown, rfl⟩
      · intro p n
        constructor
        · intro h
          exact ⟨root, selections, .operation selections declared, h⟩
        · rintro ⟨_, _, ⟨_, root'⟩ | _, h⟩
          rw [declared] at root'
          obtain rfl := Option.some.inj root'
          exact h
  | fragment name condition selections =>
    rw [usedIn]
    apply ((exact_usedByAll s reflect condition selections).check s reflect condition).congr
    · intro e
      constructor
      · rintro (⟨unknown, rfl⟩ | ⟨p, on, c, inner, reached, unknown, rfl⟩)
        · exact .fragment name selections unknown
        · exact .inlineFragment (.fragment name condition selections) reached unknown
      · rintro (_ | ⟨_, _, unknown⟩ | ⟨_ | _, reached, unknown⟩)
        · exact Or.inl ⟨unknown, rfl⟩
        · exact Or.inr ⟨_, _, _, _, reached, unknown, rfl⟩
    · intro p n
      constructor
      · intro h
        exact ⟨condition, selections, .fragment name condition selections, h⟩
      · rintro ⟨_, _, _ | _, h⟩
        exact h

theorem uses_cons_iff {d : Definition} {rest : List Definition} {position : List Nat}
    {name : String} :
    Uses s reflect (d :: rest) position name ↔
      (∃ q, position = 0 :: q ∧ DefinitionUses s reflect d q name) ∨
        ∃ q, position = later q ∧ Uses s reflect rest q name := by
  constructor
  · rintro ⟨i, d', parent, selections, q, rfl, found, starts, uses⟩
    cases i with
    | zero =>
      obtain rfl := Option.some.inj found
      exact Or.inl ⟨q, rfl, parent, selections, starts, uses⟩
    | succ i => exact Or.inr ⟨i :: q, rfl, i, d', parent, selections, q, rfl, found, starts, uses⟩
  · rintro (⟨q, rfl, parent, selections, starts, uses⟩ |
      ⟨_, rfl, i, d', parent, selections, q, rfl, found, starts, uses⟩)
    · exact ⟨0, d, parent, selections, q, rfl, rfl, starts, uses⟩
    · exact ⟨i + 1, d', parent, selections, q, rfl, found, starts, uses⟩

/-- What definitions use, one after the other and with repetitions. -/
def usedInAll (definitions : List Definition) : Except SchemaError (List String) :=
  (definitions.mapM (usedIn s reflect)).map List.flatten

theorem usedInAll_cons (d : Definition) (rest : List Definition) :
    usedInAll s reflect (d :: rest) =
      (do return (← usedIn s reflect d) ++ (← usedInAll s reflect rest)) := by
  rw [usedInAll, usedInAll, List.mapM_cons]
  cases usedIn s reflect d <;> cases rest.mapM (usedIn s reflect) <;> rfl

theorem usedTypes_eq (documents : List Document) :
    usedTypes s reflect documents =
      (usedInAll s reflect documents.flatten).map List.eraseDups := by
  rw [usedTypes, usedInAll]
  cases documents.flatten.mapM (usedIn s reflect) <;> rfl

theorem exact_usedInAll (definitions : List Definition) :
    Exact (fun e => ∃ d ∈ definitions, Faulty s reflect d e) (Uses s reflect definitions)
      (usedInAll s reflect definitions) := by
  induction definitions with
  | nil =>
    apply Exact.nil
    · simp
    · rintro p n ⟨_, _, _, _, _, _, found, _⟩
      cases found
  | cons d rest ih =>
    rw [usedInAll_cons]
    have front := (exact_usedIn s reflect d).move (0 :: ·) cons_lt_cons_self
    refine (front.append (ih.move later later_lt_later) ?_).congr ?_ ?_
    · rintro _ _ n m ⟨p, rfl, -⟩ ⟨_, rfl, i, _, _, _, q, rfl, -⟩
      exact cons_lt_later (List.cons_ne_nil i q)
    · simp
    · intro p n
      exact (uses_cons_iff s reflect).symm

/-! ### The result -/

/-- The scan fails exactly if a definition is at fault, and reports such a fault. Otherwise it finds
exactly the types that are used, each once, and one before another if it is used first. -/
theorem usedTypes_exact (documents : List Document) :
    ((∃ e, usedTypes s reflect documents = .error e) ↔
        ∃ d ∈ documents.flatten, ∃ e, Faulty s reflect d e) ∧
      (∀ e, usedTypes s reflect documents = .error e →
        ∃ d ∈ documents.flatten, Faulty s reflect d e) ∧
      ∀ used, usedTypes s reflect documents = .ok used →
        (∀ name, name ∈ used ↔ ∃ position, Uses s reflect documents.flatten position name) ∧
          used.Nodup ∧
          used.Pairwise fun a b => ∃ p, Uses s reflect documents.flatten p a ∧
            ∀ q, Uses s reflect documents.flatten q b → p < q := by
  have exact := exact_usedInAll s reflect documents.flatten
  rw [usedTypes_eq]
  cases hall : usedInAll s reflect documents.flatten with
  | error e =>
    rw [hall] at exact
    obtain ⟨d, hd, fault⟩ := exact
    refine ⟨⟨fun _ => ⟨d, hd, e, fault⟩, fun _ => ⟨e, rfl⟩⟩, ?_, ?_⟩
    · rintro _ ⟨⟩
      exact ⟨d, hd, fault⟩
    · rintro used ⟨⟩
  | ok names =>
    rw [hall] at exact
    obtain ⟨faultless, lists⟩ := exact
    refine ⟨⟨?_, ?_⟩, ?_, ?_⟩
    · rintro ⟨e, ⟨⟩⟩
    · rintro ⟨d, hd, e, fault⟩
      exact absurd ⟨d, hd, fault⟩ (faultless e)
    · rintro e ⟨⟩
    · rintro _ ⟨⟩
      refine ⟨?_, lists.nodup_eraseDups, lists.pairwise_eraseDups⟩
      intro name
      rw [List.mem_eraseDups]
      exact lists.mem_iff

end

/-- Selections of all kinds: an inline fragment without a type condition and one with it, a field
that does not resolve with an unknown type condition below, and a fragment that is spread before it
is defined. -/
theorem usedTypes_exact_nested :
    let documents : List Document :=
      [[.operation .query
          [.spread "Kind",
            .field "missing" [.inlineFragment (some "Missing") []],
            .inlineFragment none [.field "__schema" [.field "types" [.field "fields" []]]]]],
        [.fragment "Kind" "__Type" [.inlineFragment (some "__Type") [.field "kind" []]]]]
    usedTypes greeter metaSchema documents =
        .ok ["__Schema", "__Type", "__Field", "__TypeKind"] ∧
      (∀ name, name ∈ ["__Schema", "__Type", "__Field", "__TypeKind"] ↔
        ∃ position, Uses greeter metaSchema documents.flatten position name) ∧
      ["__Schema", "__Type", "__Field", "__TypeKind"].Nodup ∧
      ["__Schema", "__Type", "__Field", "__TypeKind"].Pairwise fun a b =>
        ∃ p, Uses greeter metaSchema documents.flatten p a ∧
          ∀ q, Uses greeter metaSchema documents.flatten q b → p < q := by
  intro documents
  have used : usedTypes greeter metaSchema documents =
      .ok ["__Schema", "__Type", "__Field", "__TypeKind"] := by decide +kernel
  exact ⟨used, (usedTypes_exact greeter metaSchema documents).2.2 _ used⟩

end GraphTypes.Introspection
