import GraphTypes.Declaration.TypeNames
import GraphTypes.Proofs.Name.Registry
import GraphTypes.Proofs.Schema.WellFormed

/-!
# Every declared type has an identifier

The table of identifiers covers all types that it was made for, and each identifier in it was handed
out by a claim. As a faultless schema mentions declared types only, looking up an identifier never
fails for it.
-/

namespace GraphTypes

open Config Name Sdl

theorem mem_taken_baseRegistry {name : String} :
    name ∈ baseRegistry.taken ↔ name ∈ reservedNames := by
  rw [baseRegistry, Registry.mem_taken_reserveAll]
  exact or_iff_left List.not_mem_nil

namespace TypeNames

variable {naming : Convention} {types : List TypeDef}

/-- A declared type gets an identifier unless its name is that of a built-in scalar. -/
theorem isSome_identifier?_assign {r : Registry} {d : TypeDef} (hd : d ∈ types)
    (hb : ¬ isBuiltinScalar d.name) : ((assign naming types r).1.identifier? d.name).isSome := by
  induction types generalizing r with
  | nil => cases hd
  | cons first rest ih =>
    rw [assign]
    by_cases hfirst : isBuiltinScalar first.name
    · have hd : d ∈ rest := by
        rcases List.mem_cons.mp hd with rfl | hd
        · exact absurd hfirst hb
        · exact hd
      rw [if_pos hfirst]
      exact ih hd
    · rw [if_neg hfirst, identifier?, Dictionary.lookup_cons_if]
      split
      · rfl
      · next hne =>
        have hd : d ∈ rest := by
          rcases List.mem_cons.mp hd with rfl | hd
          · exact absurd rfl hne
          · exact hd
        exact ih hd

theorem covers_assign {r : Registry} {type : String}
    (h : isBuiltinScalar type ∨ ∃ d ∈ types, d.name = type) :
    (assign naming types r).1.covers type := by
  rw [covers, Bool.or_eq_true]
  by_cases hb : isBuiltinScalar type
  · exact Or.inl hb
  · rcases h with h | ⟨d, hd, rfl⟩
    · exact absurd h hb
    · exact Or.inr (isSome_identifier?_assign hd hb)

theorem requireAll_eq_ok {names : TypeNames} {types : List String}
    (h : ∀ type ∈ types, names.covers type) : names.requireAll types = .ok () := by
  have none_missing : types.find? (!names.covers ·) = none := by
    rw [List.find?_eq_none]
    intro type htype
    simp [h type htype]
  rw [requireAll, none_missing]

/-- An identifier in the table was claimed for the type it belongs to. -/
theorem mem_assign {r : Registry} {type identifier : String}
    (h : (type, identifier) ∈ (assign naming types r).1) :
    ∃ d ∈ types, d.name = type ∧
      ∃ r' : Registry, identifier = r'.available (naming.apply d.name) := by
  induction types generalizing r with
  | nil => simp [assign] at h
  | cons first rest ih =>
    rw [assign] at h
    split at h
    · obtain ⟨d, hd, found⟩ := ih h
      exact ⟨d, List.mem_cons_of_mem _ hd, found⟩
    · rcases List.mem_cons.mp h with heq | h
      · cases heq
        exact ⟨first, List.mem_cons_self, rfl, r, rfl⟩
      · obtain ⟨d, hd, found⟩ := ih h
        exact ⟨d, List.mem_cons_of_mem _ hd, found⟩

end TypeNames

end GraphTypes
