import GraphTypes.Proofs.Schema.WellFormed

/-!
# Which schema texts make a schema

A text is accepted exactly if its types are well formed together with the types that operations
start from; a text that is refused has the fault that is reported. The root types are those of the
last `schema` block, and without a block the declared ones among the usual three. Extensions and
directive definitions leave no trace in any of this.
-/

namespace GraphTypes

open Sdl

namespace Sdl.Definition

/-- The root types that an entry of a schema text names. -/
def block? : Definition → Option Roots
  | .roots named => some named
  | _ => none

/-- Whether an entry of a schema text has a say in the schema. -/
def counts : Definition → Bool
  | .roots _ | .type _ => true
  | .extension _ | .directive _ => false

end Sdl.Definition

namespace Schema

/-! ### Root types -/

/-- A root type with a usual name is there if a type of this name is. -/
inductive UsualRoot (doc : Document) (name : String) : Option String → Prop
  | declared (d : TypeDef) (hd : .type d ∈ doc) (hname : d.name = name) :
    UsualRoot doc name (some name)
  | missing (h : ∀ d, .type d ∈ doc → d.name ≠ name) : UsualRoot doc name none

/-- The root types that a text settles on. -/
inductive SettlesOn (doc : Document) : Roots → Prop
  | lastBlock (before after : Document) (roots : Roots)
    (split : doc = before ++ .roots roots :: after) (last : ∀ other, .roots other ∉ after) :
    SettlesOn doc roots
  | usual (roots : Roots) (noBlock : ∀ other, .roots other ∉ doc)
    (query : UsualRoot doc "Query" roots.query)
    (mutation : UsualRoot doc "Mutation" roots.mutation)
    (subscription : UsualRoot doc "Subscription" roots.subscription) : SettlesOn doc roots

variable {doc : Document} {roots : Roots}

theorem mem_declared {d : TypeDef} : d ∈ declared doc ↔ .type d ∈ doc := by
  rw [declared, List.mem_filterMap]
  constructor
  · rintro ⟨_ | d' | _ | _, hmem, heq⟩ <;> cases heq
    exact hmem
  · intro hmem
    exact ⟨.type d, hmem, rfl⟩

theorem filterMap_block?_eq_nil_iff :
    doc.filterMap Definition.block? = [] ↔ ∀ other, .roots other ∉ doc := by
  rw [List.filterMap_eq_nil_iff]
  constructor
  · intro h other hmem
    cases h _ hmem
  · rintro h (other | d | name | name) hmem
    · exact absurd hmem (h other)
    all_goals rfl

theorem lastRoots?_eq : lastRoots? doc = (doc.filterMap Definition.block?).getLast? := rfl

theorem lastRoots?_eq_none_iff : lastRoots? doc = none ↔ ∀ other, .roots other ∉ doc := by
  rw [lastRoots?_eq, List.getLast?_eq_none_iff, filterMap_block?_eq_nil_iff]

theorem lastRoots?_eq_some_iff : lastRoots? doc = some roots ↔
    ∃ before after, doc = before ++ .roots roots :: after ∧ ∀ other, .roots other ∉ after := by
  rw [lastRoots?_eq, List.getLast?_eq_some_iff]
  constructor
  · rintro ⟨earlier, h⟩
    obtain ⟨front, rest, rfl, -, h⟩ := List.filterMap_eq_append_iff.mp h
    obtain ⟨skipped, block, after, rfl, -, found, last⟩ := List.filterMap_eq_cons_iff.mp h
    refine ⟨front ++ skipped, after, ?_, filterMap_block?_eq_nil_iff.mp last⟩
    cases block <;> cases found
    simp
  · rintro ⟨before, after, rfl, last⟩
    have named : Definition.block? (.roots roots) = some roots := rfl
    refine ⟨before.filterMap Definition.block?, ?_⟩
    rw [List.filterMap_append, List.filterMap_cons_some named, filterMap_block?_eq_nil_iff.mpr last]

theorem usualRoot_iff {name : String} {root : Option String} :
    UsualRoot doc name root ↔
      root = if (lookup? (declared doc) name).isSome then some name else none := by
  have there : (lookup? (declared doc) name).isSome ↔ ∃ d, .type d ∈ doc ∧ d.name = name := by
    simp only [isSome_lookup?_iff, mem_declared]
  constructor
  · rintro (⟨d, hd, hname⟩ | missing)
    · rw [if_pos (there.mpr ⟨d, hd, hname⟩)]
    · rw [if_neg fun h => ?_]
      obtain ⟨d, hd, hname⟩ := there.mp h
      exact missing d hd hname
  · rintro rfl
    split
    · next h =>
      obtain ⟨d, hd, hname⟩ := there.mp h
      exact .declared d hd hname
    · next h => exact .missing fun d hd hname => h (there.mpr ⟨d, hd, hname⟩)

/-- A text settles on one choice of root types. -/
theorem settlesOn_iff : SettlesOn doc roots ↔ roots = rootsOf doc := by
  rw [rootsOf]
  constructor
  · rintro (⟨before, after, _, split, last⟩ | ⟨_, noBlock, query, mutation, subscription⟩)
    · rw [lastRoots?_eq_some_iff.mpr ⟨before, after, split, last⟩]
      rfl
    · rw [lastRoots?_eq_none_iff.mpr noBlock]
      obtain ⟨q, m, u⟩ := roots
      obtain rfl := usualRoot_iff.mp query
      obtain rfl := usualRoot_iff.mp mutation
      obtain rfl := usualRoot_iff.mp subscription
      rfl
  · rintro rfl
    cases h : lastRoots? doc with
    | some block =>
      obtain ⟨before, after, split, last⟩ := lastRoots?_eq_some_iff.mp h
      exact .lastBlock before after block split last
    | none =>
      exact .usual _ (lastRoots?_eq_none_iff.mp h) (usualRoot_iff.mpr rfl) (usualRoot_iff.mpr rfl)
        (usualRoot_iff.mpr rfl)

/-! ### Faults that are reported -/

/-- A name that should be that of a type of one kind is declared as another one, or not at all. -/
inductive Unfit (types : List TypeDef) (kind : Kind) (wrongKind unknown : SchemaError)
    (name : String) : SchemaError → Prop
  | wrongKind (d : TypeDef) (hd : d ∈ types) (hname : d.name = name) (other : d.kind ≠ kind) :
    Unfit types kind wrongKind unknown name wrongKind
  | unknown (h : ∀ d ∈ types, d.name ≠ name) : Unfit types kind wrongKind unknown name unknown

/-- The faults of types and root types, each with the error that tells of it and of its place. -/
inductive Fault (types : List TypeDef) (roots : Roots) : SchemaError → Prop
  | duplicate (name : String) (h : 2 ≤ (types.map (·.name)).count name) :
    Fault types roots (.duplicateType name)
  | root (name : String) (hname : name ∈ roots.names) (e : SchemaError)
    (h : Unfit types .object (.rootNotObject name) (.unknownType name "schema") name e) :
    Fault types roots e
  | interface (d : TypeDef) (hd : d ∈ types) (i : String) (hi : i ∈ d.interfaces) (e : SchemaError)
    (h : Unfit types .interface (.notInterface d.name i) (.unknownType i d.name) i e) :
    Fault types roots e
  | member (d : TypeDef) (hd : d ∈ types) (m : String) (hm : m ∈ d.unionMembers) (e : SchemaError)
    (h : Unfit types .object (.memberNotObject d.name m) (.unknownType m d.name) m e) :
    Fault types roots e
  | field (d : TypeDef) (hd : d ∈ types) (f : Field) (hf : f ∈ d.fields)
    (h : ¬ Resolves types f.type) :
    Fault types roots (.unknownType f.type.innermost (d.name ++ "." ++ f.name))
  | argument (d : TypeDef) (hd : d ∈ types) (f : Field) (hf : f ∈ d.fields) (a : InputValue)
    (ha : a ∈ f.arguments) (h : ¬ Resolves types a.type) :
    Fault types roots (.unknownType a.type.innermost (d.name ++ "." ++ f.name ++ "." ++ a.name))
  | input (d : TypeDef) (hd : d ∈ types) (v : InputValue) (hv : v ∈ d.inputFields)
    (h : ¬ Resolves types v.type) :
    Fault types roots (.unknownType v.type.innermost (d.name ++ "." ++ v.name))

variable {types : List TypeDef} {e : SchemaError}

theorem unfit_of_kindFault {kind : Kind} {wrongKind unknown : SchemaError} {name : String}
    (h : kindFault types kind wrongKind unknown name = some e) :
    Unfit types kind wrongKind unknown name e := by
  rw [kindFault] at h
  split at h
  · next d hd =>
    obtain ⟨hmem, hname⟩ := mem_of_lookup? hd
    split at h
    · cases h
    · next other =>
      cases h
      exact .wrongKind d hmem hname other
  · next missing =>
    cases h
    refine .unknown fun d hd hname => ?_
    have found : (lookup? types name).isSome := isSome_lookup?_iff.mpr ⟨d, hd, hname⟩
    simp [missing] at found

theorem unresolved_of_referenceFault {place : String} {type : TypeExpr}
    (h : referenceFault types place type = some e) :
    ¬ Resolves types type ∧ e = .unknownType type.innermost place := by
  have refused : ¬ Resolves types type := by
    intro resolves
    rw [referenceFault_eq_none_iff.mpr resolves] at h
    cases h
  rw [referenceFault] at h
  split at h
  · cases h
  · cases h
    exact ⟨refused, rfl⟩

theorem unresolved_of_inputFault {owner : String} {values : List InputValue}
    (h : inputFault types owner values = some e) :
    ∃ v ∈ values, ¬ Resolves types v.type ∧
      e = .unknownType v.type.innermost (owner ++ "." ++ v.name) := by
  obtain ⟨v, hv, fault⟩ := List.exists_of_findSome?_eq_some h
  exact ⟨v, hv, unresolved_of_referenceFault fault⟩

theorem fault_of_typeFault {d : TypeDef} (hd : d ∈ types) (h : typeFault types d = some e) :
    Fault types roots e := by
  have interfaces : ∀ i ∈ d.interfaces, interfaceFault types d.name i = some e →
      Fault types roots e :=
    fun i hi fault => .interface d hd i hi e (unfit_of_kindFault fault)
  have fields : ∀ f ∈ d.fields, fieldFault types d.name f = some e → Fault types roots e := by
    intro f hf fault
    rcases Option.or_eq_some_iff.mp fault with own | ⟨-, arguments⟩
    · obtain ⟨unresolved, rfl⟩ := unresolved_of_referenceFault own
      exact .field d hd f hf unresolved
    · obtain ⟨a, ha, unresolved, rfl⟩ := unresolved_of_inputFault arguments
      exact .argument d hd f hf a ha unresolved
  have both : ((d.interfaces.findSome? (interfaceFault types d.name)).or
      (d.fields.findSome? (fieldFault types d.name))) = some e → Fault types roots e := by
    intro fault
    rcases Option.or_eq_some_iff.mp fault with own | ⟨-, own⟩
    · obtain ⟨i, hi, fault⟩ := List.exists_of_findSome?_eq_some own
      exact interfaces i hi fault
    · obtain ⟨f, hf, fault⟩ := List.exists_of_findSome?_eq_some own
      exact fields f hf fault
  unfold TypeDef.interfaces TypeDef.fields at both
  rw [typeFault] at h
  cases hshape : d.shape with
  | scalar => simp [hshape] at h
  | enum values => simp [hshape] at h
  | object own fs =>
    simp only [hshape] at h both
    exact both h
  | interface own fs =>
    simp only [hshape] at h both
    exact both h
  | union members =>
    simp only [hshape] at h
    obtain ⟨m, hm, fault⟩ := List.exists_of_findSome?_eq_some h
    have member : m ∈ d.unionMembers := by simpa [TypeDef.unionMembers, hshape] using hm
    exact .member d hd m member e (unfit_of_kindFault fault)
  | inputObject values =>
    simp only [hshape] at h
    obtain ⟨v, hv, unresolved, rfl⟩ := unresolved_of_inputFault h
    have input : v ∈ d.inputFields := by simpa [TypeDef.inputFields, hshape] using hv
    exact .input d hd v input unresolved

/-- The search for a duplicate reports a name that two types have, or one has that was seen. -/
theorem exists_of_duplicateFault {seen : List String} (h : duplicateFault seen types = some e) :
    ∃ name, e = .duplicateType name ∧
      (2 ≤ (types.map (·.name)).count name ∨ name ∈ seen ∧ name ∈ types.map (·.name)) := by
  induction types generalizing seen with
  | nil => cases h
  | cons d rest ih =>
    rw [duplicateFault] at h
    split at h
    · next again =>
      cases h
      exact ⟨d.name, rfl, Or.inr ⟨by simpa using again, by simp⟩⟩
    · obtain ⟨name, rfl, twice | ⟨before, later⟩⟩ := ih h
      · refine ⟨name, rfl, Or.inl ?_⟩
        rw [List.map_cons, List.count_cons]
        omega
      · rcases List.mem_cons.mp before with rfl | before
        · refine ⟨d.name, rfl, Or.inl ?_⟩
          have := List.count_pos_iff.mpr later
          rw [List.map_cons, List.count_cons_self]
          omega
        · exact ⟨name, rfl, Or.inr ⟨before, by simp [later]⟩⟩

theorem fault_of_firstFault (h : firstFault types roots = some e) : Fault types roots e := by
  rw [firstFault, Option.or_eq_some_iff, Option.or_eq_some_iff] at h
  rcases h with (duplicate | ⟨-, root⟩) | ⟨-, type⟩
  · obtain ⟨name, rfl, twice | ⟨seen, -⟩⟩ := exists_of_duplicateFault duplicate
    · exact .duplicate name twice
    · cases seen
  · obtain ⟨name, hname, fault⟩ := List.exists_of_findSome?_eq_some root
    exact .root name hname e (unfit_of_kindFault fault)
  · obtain ⟨d, hd, fault⟩ := List.exists_of_findSome?_eq_some type
    exact fault_of_typeFault hd fault

/-! ### The result -/

theorem ofDocument_eq_ok {s : Schema} (h : ofDocument doc = .ok s) :
    s.types = declared doc ∧ s.roots = rootsOf doc := by
  rw [ofDocument] at h
  split at h
  · cases h
    exact ⟨rfl, rfl⟩
  · cases h

theorem exists_ofDocument_iff :
    (∃ s, ofDocument doc = .ok s) ↔ WellFormed (declared doc) (rootsOf doc) := by
  rw [← firstFault_eq_none_iff]
  constructor
  · rintro ⟨s, h⟩
    obtain ⟨types, roots⟩ := ofDocument_eq_ok h
    rw [← types, ← roots]
    exact s.faultless
  · intro faultless
    refine ⟨⟨declared doc, rootsOf doc, faultless⟩, ?_⟩
    rw [ofDocument]
    split
    · rfl
    · next e fault =>
      rw [faultless] at fault
      cases fault

theorem fault_of_ofDocument (h : ofDocument doc = .error e) :
    Fault (declared doc) (rootsOf doc) e := by
  rw [ofDocument] at h
  split at h
  · cases h
  · next e' fault =>
    cases h
    exact fault_of_firstFault fault

/-- A schema depends on a text through its types and its root types alone. -/
theorem ofDocument_congr {doc' : Document} (types : declared doc' = declared doc)
    (roots : rootsOf doc' = rootsOf doc) : ofDocument doc' = ofDocument doc := by
  unfold ofDocument
  generalize declared doc' = types' at types ⊢
  generalize rootsOf doc' = roots' at roots ⊢
  subst types roots
  rfl

theorem filterMap_filter_counts {α : Type} {f : Definition → Option α}
    (h : ∀ d, ¬ d.counts → f d = none) :
    (doc.filter Definition.counts).filterMap f = doc.filterMap f := by
  induction doc with
  | nil => rfl
  | cons d rest ih =>
    rw [List.filter_cons]
    split
    · rw [List.filterMap_cons, List.filterMap_cons, ih]
    · next silent => rw [List.filterMap_cons_none (h d silent), ih]

/-- Extensions and directive definitions make no difference. -/
theorem ofDocument_filter_counts (doc : Document) :
    ofDocument (doc.filter Definition.counts) = ofDocument doc := by
  have types : declared (doc.filter Definition.counts) = declared doc := by
    rw [declared, declared, filterMap_filter_counts]
    rintro (_ | _ | _ | _) <;> simp [Definition.counts]
  have block : lastRoots? (doc.filter Definition.counts) = lastRoots? doc := by
    rw [lastRoots?_eq, lastRoots?_eq, filterMap_filter_counts]
    rintro (_ | _ | _ | _) <;> simp [Definition.counts, Definition.block?]
  apply ofDocument_congr types
  rw [rootsOf, rootsOf, block, types]

/-- A text makes a schema exactly if its types are well formed with the root types that it settles
on. The schema has the types of the text, in the order of the text, and these root types. A text
that makes none has the fault that is reported. Extensions and directive definitions change
nothing. -/
theorem ofDocument_exact (doc : Document) :
    ∃ roots, (∀ other, SettlesOn doc other ↔ other = roots) ∧
      ((∃ s, ofDocument doc = .ok s) ↔ WellFormed (declared doc) roots) ∧
      (∀ s, ofDocument doc = .ok s → s.types = declared doc ∧ s.roots = roots) ∧
      (¬ WellFormed (declared doc) roots → ∃ e, ofDocument doc = .error e) ∧
      (∀ e, ofDocument doc = .error e → Fault (declared doc) roots e) ∧
      ofDocument (doc.filter Definition.counts) = ofDocument doc := by
  refine ⟨rootsOf doc, fun _ => settlesOn_iff, exists_ofDocument_iff, fun _ => ofDocument_eq_ok, ?_,
    fun _ => fault_of_ofDocument, ofDocument_filter_counts doc⟩
  intro illFormed
  cases h : ofDocument doc with
  | ok s => exact absurd (exists_ofDocument_iff.mp ⟨s, h⟩) illFormed
  | error e => exact ⟨e, rfl⟩

end Schema

end GraphTypes
