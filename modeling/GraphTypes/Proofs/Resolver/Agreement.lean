import GraphTypes.Proofs.Declaration.Lookup
import GraphTypes.Proofs.Resolver.Structure

/-!
# Contexts that agree on types

What is declared for resolvers is made from a context, and the functions that make it look at the
context in few ways only. `AgreeOn` lists these: two contexts agree on types if they refer to them
and replace them in the same way. One lemma for each function says that it makes the same of both
contexts, as long as it only comes across types that they agree on; `AgreeOn.items` is the last of
them.
-/

namespace GraphTypes

open Config Name Sdl TypeScript

namespace ResolverContext

/-- Nothing that is made from two contexts differs because of the given types. -/
structure AgreeOn (types : String → Prop) (c c' : ResolverContext) : Prop where
  schema : c'.schema = c.schema
  immutableTypes : c'.settings.immutableTypes = c.settings.immutableTypes
  refer {type : String} : types type → c'.refer type = c.refer type
  mapped {type : String} : types type → c'.mapped type = c.mapped type
  parentOf {type : String} : types type → c'.parentOf type = c.parentOf type
  argumentRecord {f : Field} : (∀ a ∈ f.arguments, types a.type.innermost) →
    ∀ name, c'.argumentRecord name f = c.argumentRecord name f

theorem mentioned_cons (c : ResolverContext) (d : TypeDef) (rest : List TypeDef) :
    c.mentioned (d :: rest) = c.mentioned [d] ++ c.mentioned rest := by
  rw [mentioned, mentioned, mentioned, List.flatMap_cons, List.flatMap_singleton]

namespace AgreeOn

variable {types : String → Prop} {c c' : ResolverContext} (agree : AgreeOn types c c')

include agree

/-! ### Fields -/

theorem claimArguments {f : Field} (arguments : ∀ a ∈ f.arguments, types a.type.innermost)
    (scope : Registry) : c'.claimArguments f scope = c.claimArguments f scope := by
  simp only [ResolverContext.claimArguments, agree.argumentRecord arguments]

theorem fieldResolver {f : Field} (result : types f.type.innermost)
    (arguments : ∀ a ∈ f.arguments, types a.type.innermost) (scope : Registry) :
    c'.fieldResolver f scope = c.fieldResolver f scope := by
  simp only [ResolverContext.fieldResolver, agree.claimArguments arguments, agree.immutableTypes,
    Ty.ofTypeExpr_congr _ (agree.mapped result)]

theorem fieldResolvers {fields : List Field} (results : ∀ f ∈ fields, types f.type.innermost)
    (arguments : ∀ f ∈ fields, ∀ a ∈ f.arguments, types a.type.innermost) (scope : Registry) :
    c'.fieldResolvers fields scope = c.fieldResolvers fields scope := by
  induction fields generalizing scope with
  | nil => rfl
  | cons f rest ih =>
    have first := agree.fieldResolver (results f List.mem_cons_self)
      (arguments f List.mem_cons_self)
    have others := ih (fun g hg => results g (List.mem_cons_of_mem f hg))
      fun g hg => arguments g (List.mem_cons_of_mem f hg)
    simp only [ResolverContext.fieldResolvers, first, others]

/-! ### Items -/

theorem abstractNamespace {d : TypeDef} {members : List String} (all : ∀ m ∈ members, types m)
    (name : String) (r : Registry) :
    c'.abstractNamespace d members name r = c.abstractNamespace d members name r := by
  have parents : (members.map fun m => (m, c'.parentOf m)) =
      members.map fun m => (m, c.parentOf m) := by
    apply List.map_congr_left
    intro m hm
    rw [agree.parentOf (all m hm)]
  simp only [ResolverContext.abstractNamespace, parents]

theorem item? {d : TypeDef} (all : ∀ type ∈ c.mentioned [d], types type) (name : String)
    (r : Registry) : c'.item? d name r = c.item? d name r := by
  rw [mentioned, List.flatMap_singleton] at all
  rw [ResolverContext.item?, ResolverContext.item?]
  cases hshape : d.shape with
  | object interfaces fields =>
    have hfields : d.fields = fields := by rw [TypeDef.fields, hshape]
    simp only [hshape, List.forall_mem_cons, List.forall_mem_flatMap, List.forall_mem_map] at all
    obtain ⟨own, inside⟩ := all
    simp only [objectNamespace, hfields, agree.schema, agree.parentOf own,
      agree.fieldResolvers (fun f hf => (inside f hf).1) fun f hf => (inside f hf).2]
  | interface interfaces fields =>
    simp only [hshape, List.forall_mem_cons] at all
    simp only [agree.schema, agree.abstractNamespace all.2]
  | union members =>
    simp only [hshape, List.forall_mem_cons] at all
    simp only [agree.abstractNamespace all.2]
  | scalar =>
    simp only [hshape, List.forall_mem_singleton] at all
    simp only [agree.refer all]
  | enum values => rfl
  | inputObject fields => rfl

theorem items {ds : List TypeDef} (own : ∀ d ∈ ds, types d.name)
    (all : ∀ type ∈ c.mentioned ds, types type) (r : Registry) : c'.items ds r = c.items ds r := by
  induction ds generalizing r with
  | nil => rfl
  | cons d rest ih =>
    -- The name is claimed even for a type that has no item, so the contexts must agree on it too.
    have wanted : c'.itemName d = c.itemName d := by
      rw [itemName, itemName, agree.refer (own d List.mem_cons_self)]
    rw [mentioned_cons, List.forall_mem_append] at all
    have made := agree.item? all.1
    have others := ih (fun e he => own e (List.mem_cons_of_mem d he)) all.2
    rw [ResolverContext.items, ResolverContext.items, wanted]
    simp only [made, others]

end AgreeOn

end ResolverContext

end GraphTypes
