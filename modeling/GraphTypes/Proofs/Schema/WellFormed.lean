import GraphTypes.Schema.Basic

/-!
# Faultless schemas are well formed

`firstFault` goes through the types one by one and stops at the first broken rule. `WellFormed` says
what the rules ask for, without any order:

    firstFault_eq_none_iff : firstFault types roots = none ↔ WellFormed types roots

Each rule has a lemma of its own that says when it finds no fault, and the result puts these
together. `Schema.wellFormed` is the form in which other modules use it.
-/

namespace GraphTypes

open Sdl

namespace Sdl.TypeDef

/-- The members that a union lists. -/
def unionMembers (d : TypeDef) : List String :=
  match d.shape with
  | .union members => members
  | _ => []

/-- The fields of an input object. -/
def inputFields (d : TypeDef) : List InputValue :=
  match d.shape with
  | .inputObject fields => fields
  | _ => []

end Sdl.TypeDef

namespace Schema

/-- A type of this kind is declared under the name. -/
def Declares (types : List TypeDef) (kind : Kind) (name : String) : Prop :=
  ∃ d ∈ types, d.name = name ∧ d.kind = kind

/-- A reference ends in a built-in scalar or in a declared type. -/
def Resolves (types : List TypeDef) (type : TypeExpr) : Prop :=
  isBuiltinScalar type.innermost ∨ ∃ d ∈ types, d.name = type.innermost

/-- What is asked of a single type: all that it mentions is declared, as a type of the right
kind. -/
structure Sound (types : List TypeDef) (d : TypeDef) : Prop where
  interfaces : ∀ i ∈ d.interfaces, Declares types .interface i
  members : ∀ m ∈ d.unionMembers, Declares types .object m
  fields : ∀ f ∈ d.fields, Resolves types f.type
  arguments : ∀ f ∈ d.fields, ∀ a ∈ f.arguments, Resolves types a.type
  inputs : ∀ v ∈ d.inputFields, Resolves types v.type

/-- What is asked of the types of a schema and of its root types. -/
structure WellFormed (types : List TypeDef) (roots : Roots) : Prop where
  nodup : (types.map (·.name)).Nodup
  roots : ∀ name ∈ roots.names, Declares types .object name
  sound : ∀ d ∈ types, Sound types d

/-! ### Looking up types -/

theorem mem_of_lookup? {types : List TypeDef} {name : String} {d : TypeDef}
    (h : lookup? types name = some d) : d ∈ types ∧ d.name = name :=
  ⟨List.mem_of_find?_eq_some h, by simpa using List.find?_some h⟩

theorem lookup?_of_mem {types : List TypeDef} {d : TypeDef}
    (nodup : (types.map (·.name)).Nodup) (hd : d ∈ types) : lookup? types d.name = some d := by
  induction types with
  | nil => cases hd
  | cons first rest ih =>
    rw [List.map_cons, List.nodup_cons] at nodup
    rw [lookup?, List.find?_cons]
    rcases List.mem_cons.mp hd with rfl | hd
    · simp
    · have : first.name ≠ d.name := fun h => nodup.1 (h ▸ List.mem_map_of_mem hd)
      rw [beq_false_of_ne this]
      exact ih nodup.2 hd

theorem isSome_lookup?_iff {types : List TypeDef} {name : String} :
    (lookup? types name).isSome ↔ ∃ d ∈ types, d.name = name := by
  simp [lookup?, List.find?_isSome]

/-! ### Rule by rule -/

/-- The names of the types are unlike each other and unlike those seen before. -/
theorem duplicateFault_eq_none_iff {seen : List String} {types : List TypeDef} :
    duplicateFault seen types = none ↔
      (types.map (·.name)).Nodup ∧ ∀ d ∈ types, d.name ∉ seen := by
  induction types generalizing seen with
  | nil => simp [duplicateFault]
  | cons d rest ih =>
    rw [duplicateFault]
    by_cases h : d.name ∈ seen
    · simp [h]
    · rw [if_neg (by simpa using h), ih, List.map_cons, List.nodup_cons]
      constructor
      · rintro ⟨nodup, fresh⟩
        refine ⟨⟨?_, nodup⟩, ?_⟩
        · rintro hd
          obtain ⟨e, he, heq⟩ := List.mem_map.mp hd
          exact fresh e he (heq ▸ List.mem_cons_self)
        · intro e he
          rcases List.mem_cons.mp he with rfl | he
          · exact h
          · exact fun hs => fresh e he (List.mem_cons_of_mem _ hs)
      · rintro ⟨⟨first, nodup⟩, fresh⟩
        refine ⟨nodup, ?_⟩
        intro e he hs
        rcases List.mem_cons.mp hs with heq | hs
        · exact first (heq ▸ List.mem_map_of_mem he)
        · exact fresh e (List.mem_cons_of_mem _ he) hs

section Rules

variable {types : List TypeDef} (nodup : (types.map (·.name)).Nodup)

include nodup in
theorem kindFault_eq_none_iff {kind : Kind} {wrongKind unknown : SchemaError} {name : String} :
    kindFault types kind wrongKind unknown name = none ↔ Declares types kind name := by
  unfold kindFault
  cases h : lookup? types name with
  | none =>
    have : ¬ ∃ d ∈ types, d.name = name := by rw [← isSome_lookup?_iff, h]; simp
    simp only [reduceCtorEq, false_iff]
    exact fun ⟨d, hd, hname, _⟩ => this ⟨d, hd, hname⟩
  | some d =>
    obtain ⟨hd, hname⟩ := mem_of_lookup? h
    have found : (if d.kind = kind then none else some wrongKind) = none ↔ d.kind = kind := by
      by_cases hk : d.kind = kind <;> simp [hk]
    refine found.trans ?_
    constructor
    · intro hk
      exact ⟨d, hd, hname, hk⟩
    · rintro ⟨e, he, hename, hk⟩
      have : lookup? types name = some e := hename ▸ lookup?_of_mem nodup he
      rw [h, Option.some.injEq] at this
      exact this ▸ hk

theorem referenceFault_eq_none_iff {place : String} {type : TypeExpr} :
    referenceFault types place type = none ↔ Resolves types type := by
  rw [referenceFault, Resolves, ← isSome_lookup?_iff, ← Bool.or_eq_true]
  split
  · next h => simp [h]
  · next h => simp [h]

theorem inputFault_eq_none_iff {owner : String} {values : List InputValue} :
    inputFault types owner values = none ↔ ∀ v ∈ values, Resolves types v.type := by
  simp [inputFault, List.findSome?_eq_none_iff, referenceFault_eq_none_iff]

theorem fieldFault_eq_none_iff {owner : String} {f : Field} :
    fieldFault types owner f = none ↔
      Resolves types f.type ∧ ∀ a ∈ f.arguments, Resolves types a.type := by
  simp [fieldFault, referenceFault_eq_none_iff, inputFault_eq_none_iff]

include nodup in
theorem typeFault_eq_none_iff {d : TypeDef} : typeFault types d = none ↔ Sound types d := by
  -- Only the lists that belong to the shape of the type are not empty.
  have split : Sound types d ↔
      (∀ i ∈ d.interfaces, Declares types .interface i) ∧
        (∀ m ∈ d.unionMembers, Declares types .object m) ∧
        (∀ f ∈ d.fields, Resolves types f.type ∧ ∀ a ∈ f.arguments, Resolves types a.type) ∧
        ∀ v ∈ d.inputFields, Resolves types v.type :=
    ⟨fun ⟨i, m, f, a, v⟩ => ⟨i, m, fun g hg => ⟨f g hg, a g hg⟩, v⟩,
      fun ⟨i, m, f, v⟩ => ⟨i, m, fun g hg => (f g hg).1, fun g hg => (f g hg).2, v⟩⟩
  rw [split]
  unfold typeFault TypeDef.interfaces TypeDef.unionMembers TypeDef.fields TypeDef.inputFields
  cases d.shape <;>
    simp [List.findSome?_eq_none_iff, interfaceFault, memberFault, kindFault_eq_none_iff nodup,
      fieldFault_eq_none_iff, inputFault_eq_none_iff]

end Rules

/-! ### All rules -/

/-- The search for a fault finds none exactly in well-formed types. -/
theorem firstFault_eq_none_iff {types : List TypeDef} {roots : Roots} :
    firstFault types roots = none ↔ WellFormed types roots := by
  rw [firstFault, Option.or_eq_none_iff, Option.or_eq_none_iff, duplicateFault_eq_none_iff,
    List.findSome?_eq_none_iff, List.findSome?_eq_none_iff]
  constructor
  · rintro ⟨⟨⟨nodup, -⟩, hroots⟩, htypes⟩
    exact ⟨nodup, fun name hname => (kindFault_eq_none_iff nodup).mp (hroots name hname),
      fun d hd => (typeFault_eq_none_iff nodup).mp (htypes d hd)⟩
  · rintro ⟨nodup, hroots, sound⟩
    exact ⟨⟨⟨nodup, by simp⟩,
        fun name hname => (kindFault_eq_none_iff nodup).mpr (hroots name hname)⟩,
      fun d hd => (typeFault_eq_none_iff nodup).mpr (sound d hd)⟩

theorem wellFormed (s : Schema) : WellFormed s.types s.roots :=
  firstFault_eq_none_iff.mp s.faultless

/-! ### Schemas -/

variable {s : Schema}

theorem get?_of_mem {d : TypeDef} (hd : d ∈ s.types) : s.get? d.name = some d :=
  lookup?_of_mem s.wellFormed.nodup hd

theorem contains_iff {name : String} : s.contains name ↔ ∃ d ∈ s.types, d.name = name :=
  isSome_lookup?_iff

theorem mem_implementations {interface name : String} :
    name ∈ s.implementations interface ↔
      ∃ o ∈ s.types, o.name = name ∧ o.kind = .object ∧ interface ∈ o.interfaces := by
  simp only [implementations, List.mem_map, List.mem_filter, Bool.and_eq_true, beq_iff_eq,
    List.contains_iff_mem]
  constructor
  · rintro ⟨o, ⟨ho, object, lists⟩, named⟩
    exact ⟨o, ho, named, object, lists⟩
  · rintro ⟨o, ho, named, object, lists⟩
    exact ⟨o, ⟨ho, object, lists⟩, named⟩

/-- The objects that list an interface are declared. -/
theorem declares_of_mem_implementations {interface member : String}
    (h : member ∈ s.implementations interface) : Declares s.types .object member := by
  obtain ⟨o, ho, named, object, -⟩ := mem_implementations.mp h
  exact ⟨o, ho, named, object⟩

/-! ### A schema with types of all kinds

It serves as a concrete case of statements about all schemas. -/

/-- Books to be searched for, with every kind of type and a cycle between two objects. -/
def library : Schema where
  types :=
    [{ description := none, name := "Query"
       shape := .object []
        [{ description := none, name := "search"
           arguments := [{ description := none, name := "filter", type := .named "Filter" }]
           type := .nonNull (.list (.nonNull (.named "Result"))) }] },
      { description := none, name := "Node"
        shape := .interface []
          [{ description := none, name := "id", arguments := []
             type := .nonNull (.named "ID") }] },
      { description := none, name := "Book"
        shape := .object ["Node"]
          [{ description := none, name := "id", arguments := [], type := .nonNull (.named "ID") },
            { description := none, name := "author", arguments := [], type := .named "Author" },
            { description := none, name := "printed", arguments := [], type := .named "Date" }] },
      { description := none, name := "Author"
        shape := .object []
          [{ description := none, name := "books"
             arguments := [{ description := none, name := "genre", type := .named "Genre" }]
             type := .list (.named "Book") }] },
      { description := none, name := "Result", shape := .union ["Book", "Author"] },
      { description := none, name := "Filter"
        shape := .inputObject
          [{ description := none, name := "genre", type := .named "Genre" }] },
      { description := none, name := "Genre"
        shape := .enum [{ description := none, name := "NOVEL" }] },
      { description := none, name := "Date", shape := .scalar }]
  roots := { query := some "Query" }
  faultless := by decide +kernel

end Schema

end GraphTypes
