import GraphTypes.Proofs.Resolver.Agreement

/-!
# Resolvers find every identifier

The counterpart for resolvers of what declarations say about looking up identifiers: with further
types in the table, everything that is declared for a faultless schema is the same
(`resolverItems_extend`).
-/

namespace GraphTypes

open Config Name Sdl TypeScript

namespace ResolverContext

variable (c : ResolverContext) (more : TypeNames)

/-- The same context with identifiers for further types, which come last in the table. -/
def extend : ResolverContext := { c with names := c.names ++ more }

variable {c}

theorem refer_extend {type : String} (covered : c.names.covers type) :
    (c.extend more).refer type = c.refer type :=
  TypeNames.refer_append covered c.settings more

theorem mapped_extend {type : String} (covered : c.names.covers type) :
    (c.extend more).mapped type = c.mapped type := by
  rw [mapped, mapped, refer_extend more covered]
  rfl

theorem parentOf_extend {type : String} (covered : c.names.covers type) :
    (c.extend more).parentOf type = c.parentOf type := by
  rw [parentOf, parentOf, mapped_extend more covered]
  rfl

theorem argumentRecord_extend {f : Field}
    (covered : ∀ a ∈ f.arguments, c.names.covers a.type.innermost) (name : String) :
    (c.extend more).argumentRecord name f = c.argumentRecord name f := by
  let d : DeclarationContext := ⟨c.schema, c.names, c.settings⟩
  have members : (d.extend more).inputMembers .argument f.arguments =
      d.inputMembers .argument f.arguments :=
    DeclarationContext.inputMembers_extend more covered .argument
  exact congrArg (ArgumentRecord.mk name) members

/-- Identifiers for further types make no difference to the types that have one already. -/
theorem agreeOn_extend : AgreeOn (c.names.covers ·) c (c.extend more) where
  schema := rfl
  immutableTypes := rfl
  refer := refer_extend more
  mapped := mapped_extend more
  parentOf := parentOf_extend more
  argumentRecord := argumentRecord_extend more

end ResolverContext

/-! ### The resolvers of a schema -/

section Output

variable (s : Schema) (settings : Settings)

theorem covers_of_mem_resolverTypes {d : TypeDef} (hd : d ∈ resolverTypes s) :
    (ownNames s settings).1.covers d.name :=
  TypeNames.covers_assign (Or.inr ⟨d, resolverTypes_subset s hd, rfl⟩)

theorem resolverItems_extend (more : TypeNames) :
    ((resolverContext s settings).extend more).items (resolverTypes s)
      (claimedImports s settings).2 = resolverItems s settings := by
  apply (ResolverContext.agreeOn_extend more).items
  · intro d hd
    exact covers_of_mem_resolverTypes s settings hd
  · exact covers_resolverContext s settings

end Output

end GraphTypes
