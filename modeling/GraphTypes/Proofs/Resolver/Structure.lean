import Mathlib.Data.Prod.Basic
import GraphTypes.Proofs.Declaration.Structure
import GraphTypes.Proofs.Resolver.Imports
import GraphTypes.Resolver.OfSchema

/-!
# Where resolver signatures come from

A faultless schema has an identifier for every type that its resolvers mention, so the resolvers are
always made, and `resolverModule_eq` gives them in full. Each item is made from a type of the
schema, under a name that is claimed after all imports.
-/

namespace GraphTypes

open Config Name Sdl TypeScript

namespace ResolverContext

variable (c : ResolverContext)

/-! ### Every mentioned type has an identifier -/

/-- What the resolvers of types of a faultless schema mention is a built-in scalar or declared. -/
theorem resolves_of_mem_mentioned {types : List TypeDef} (htypes : types ⊆ c.schema.types)
    {name : String} (h : name ∈ c.mentioned types) :
    isBuiltinScalar name ∨ ∃ d ∈ c.schema.types, d.name = name := by
  rw [mentioned, List.mem_flatMap] at h
  obtain ⟨d, hd, h⟩ := h
  have sound := c.schema.wellFormed.sound d (htypes hd)
  have own : isBuiltinScalar d.name ∨ ∃ e ∈ c.schema.types, e.name = d.name :=
    Or.inr ⟨d, htypes hd, rfl⟩
  have object : Schema.Declares c.schema.types .object name →
      isBuiltinScalar name ∨ ∃ e ∈ c.schema.types, e.name = name := by
    rintro ⟨e, he, hname, -⟩
    exact Or.inr ⟨e, he, hname⟩
  cases hshape : d.shape with
  | object interfaces fields =>
    have hfields : d.fields = fields := by rw [TypeDef.fields, hshape]
    rw [hshape] at h
    rcases List.mem_cons.mp h with rfl | h
    · exact own
    · obtain ⟨f, hf, h⟩ := List.mem_flatMap.mp h
      rw [← hfields] at hf
      rcases List.mem_cons.mp h with rfl | h
      · exact sound.fields f hf
      · obtain ⟨a, ha, rfl⟩ := List.mem_map.mp h
        exact sound.arguments f hf a ha
  | interface interfaces fields =>
    rw [hshape] at h
    rcases List.mem_cons.mp h with rfl | h
    · exact own
    · exact object (Schema.declares_of_mem_implementations h)
  | union members =>
    have hmembers : d.unionMembers = members := by rw [TypeDef.unionMembers, hshape]
    rw [hshape] at h
    rcases List.mem_cons.mp h with rfl | h
    · exact own
    · exact object (sound.members name (hmembers ▸ h))
  | scalar =>
    rw [hshape] at h
    rw [List.mem_singleton.mp h]
    exact own
  | enum values => rw [hshape] at h; cases h
  | inputObject fields => rw [hshape] at h; cases h

/-! ### Items -/

/-- Enums and input objects have no resolvers. -/
def hasItem (d : TypeDef) : Bool := d.kind != .enum && d.kind != .inputObject

theorem isSome_item? (d : TypeDef) (name : String) (r : Registry) :
    (c.item? d name r).isSome = hasItem d := by
  rw [item?, hasItem, TypeDef.kind]
  cases d.shape <;> rfl

/-- The items stand in the order of the types that they are made from. The name of each is claimed
when `r` and perhaps more is in use. -/
theorem forall₂_items (types : List TypeDef) (r : Registry) :
    List.Forall₂
      (fun d item => ∃ r' : Registry, r.taken ⊆ r'.taken ∧
        c.item? d (r'.claim (c.itemName d)).1 (r'.claim (c.itemName d)).2 = some item)
      (types.filter hasItem) (c.items types r) := by
  induction types generalizing r with
  | nil => exact .nil
  | cons d rest ih =>
    have some? := c.isSome_item? d (r.claim (c.itemName d)).1 (r.claim (c.itemName d)).2
    rw [items]
    dsimp only
    cases made : c.item? d (r.claim (c.itemName d)).1 (r.claim (c.itemName d)).2 with
    | none =>
      rw [made] at some?
      rw [List.filter_cons_of_neg (by simp [← some?])]
      exact ih r
    | some item =>
      -- The name stays claimed for the items that follow.
      rw [made] at some?
      rw [List.filter_cons_of_pos some?.symm]
      refine .cons ⟨r, List.Subset.refl _, made⟩ ((ih _).imp ?_)
      rintro e other ⟨r', hsub, found⟩
      exact ⟨r', List.Subset.trans (Registry.taken_subset_claim r _) hsub, found⟩

theorem exists_of_mem_items {types : List TypeDef} {r : Registry} {item : ResolverItem}
    (h : item ∈ c.items types r) :
    ∃ d ∈ types, ∃ r' : Registry, r.taken ⊆ r'.taken ∧
      c.item? d (r'.claim (c.itemName d)).1 (r'.claim (c.itemName d)).2 = some item := by
  obtain ⟨hlen, made⟩ := List.forall₂_iff_get.mp (c.forall₂_items types r)
  obtain ⟨i, hi, rfl⟩ := List.mem_iff_getElem.mp h
  have hd : (types.filter hasItem)[i] ∈ types.filter hasItem := List.getElem_mem (hlen ▸ hi)
  exact ⟨_, (List.mem_filter.mp hd).1, made i (hlen ▸ hi) hi⟩

variable {c} {d : TypeDef} {name : String} {r : Registry}

theorem name_of_item? {item : ResolverItem} (h : c.item? d name r = some item) :
    item.name = name := by
  rw [item?] at h
  cases hshape : d.shape <;> rw [hshape] at h <;> cases h <;> rfl

theorem objectNamespace_of_item? {ns : ObjectNamespace}
    (h : c.item? d name r = some (.object ns)) : ns = c.objectNamespace d name r := by
  rw [item?] at h
  cases hshape : d.shape <;> rw [hshape] at h <;> cases h
  rfl

theorem abstractNamespace_of_item? {ns : AbstractNamespace}
    (h : c.item? d name r = some (.abstract ns)) :
    ∃ members, ns = c.abstractNamespace d members name r := by
  rw [item?] at h
  cases hshape : d.shape <;> rw [hshape] at h <;> cases h
  · exact ⟨_, rfl⟩
  · exact ⟨_, rfl⟩

/-- The resolvers of fields stand in the order of the fields. -/
theorem forall₂_fieldResolvers (fields : List Field) (scope : Registry) :
    List.Forall₂
      (fun f (resolver : FieldResolver) => resolver.field = f.name ∧
        resolver.result = Ty.ofTypeExpr c.settings.immutableTypes c.mapped f.type)
      fields (c.fieldResolvers fields scope) := by
  induction fields generalizing scope with
  | nil => exact .nil
  | cons f rest ih => exact .cons ⟨rfl, rfl⟩ (ih _)

end ResolverContext

/-! ### Shared names -/

theorem SharedNames.toList_claim (r : Registry) :
    (claim r).1.toList = (r.claimAll usual.toList).1 := by
  rw [claim, toList, toList]
  -- Both sides make the same nine claims. Each is set aside before the next one is looked at, as
  -- the registry of a claim holds that of the claim before it twice.
  iterate 9
    rw [Registry.claimAll]
    generalize Registry.claim _ _ = claimed
    obtain ⟨name, r⟩ := claimed
    dsimp only
  rfl

theorem SharedNames.taken_subset_claim (r : Registry) : r.taken ⊆ (claim r).2.taken :=
  r.taken_subset_claimAll usual.toList

/-! ### The resolvers of a schema in full -/

section Output

variable (s : Schema) (settings : Settings)

/-- The shared names, and the names in use after them. -/
def sharedNames : SharedNames × Registry :=
  SharedNames.claim (resolverBase (ownNames s settings).1)

/-- What is in use before the resolvers' code claims any name: reserved names, the identifiers of
types, and the symbols of the GraphQL runtime. -/
theorem mem_taken_resolverBase {names : TypeNames} {name : String} :
    name ∈ (resolverBase names).taken ↔
      name ∈ [resolveInfo, scalarType, scalarTypeConfig] ∨ name ∈ names.identifiers ∨
        name ∈ reservedNames := by
  rw [resolverBase, Registry.mem_taken_reserveAll, Registry.mem_taken_reserveAll,
    mem_taken_baseRegistry]

theorem taken_subset_sharedNames :
    (resolverBase (ownNames s settings).1).taken ⊆ (sharedNames s settings).2.taken := by
  rw [sharedNames]
  exact SharedNames.taken_subset_claim _

/-- The symbols of other modules that the references in effect are to. -/
def externalsInEffect : List ExternalRef :=
  (referencesInEffect s settings).filterMap Reference.external?

/-- The imports as the code of the resolvers is written with them, and the names in use after
them. -/
def claimedImports : Imports × Registry :=
  Imports.none.addAll (sharedNames s settings).2 (externalsInEffect s settings)

theorem taken_subset_claimedImports :
    (resolverBase (ownNames s settings).1).taken ⊆ (claimedImports s settings).2.taken :=
  List.Subset.trans (taken_subset_sharedNames s settings) Imports.taken_subset_addAll

/-- A reference in effect claims a local name. -/
theorem exists_localName?_claimedImports {ref : ExternalRef}
    (h : ref ∈ externalsInEffect s settings) :
    ∃ localName, (claimedImports s settings).1.localName? ref = some localName :=
  Option.isSome_iff_exists.mp (Imports.isSome_localName?_addAll h)

/-- What the resolver signatures of a schema are made from. -/
def resolverContext : ResolverContext :=
  ⟨s, (ownNames s settings).1, settings, (claimedImports s settings).1⟩

/-- What is declared for the types of a schema. -/
def resolverItems : List ResolverItem :=
  (resolverContext s settings).items (resolverTypes s) (claimedImports s settings).2

/-- The imports as they are printed: with the symbols of the GraphQL runtime. -/
def printedImports : Imports :=
  (runtimeSymbols (resolverItems s settings)).foldl (·.addPlain graphqlModule ·)
    (claimedImports s settings).1

theorem resolverTypes_subset : resolverTypes s ⊆ s.types := List.filter_subset_self _

/-- Everything that is declared for the resolvers of a schema. -/
def resolverOutput : ResolverModule where
  names := (sharedNames s settings).1
  contextDefault :=
    (settings.contextType.map (claimedImports s settings).1.template).getD "\x7b\x7d"
  items := resolverItems s settings
  imports := printedImports s settings

theorem covers_resolverContext :
    ∀ type ∈ (resolverContext s settings).mentioned (resolverTypes s),
      (resolverContext s settings).names.covers type := by
  intro type htype
  apply TypeNames.covers_assign
  exact (resolverContext s settings).resolves_of_mem_mentioned (resolverTypes_subset s) htype

/-- The resolvers of a schema are always made. -/
theorem resolverModule_eq : resolverModule s settings = .ok (resolverOutput s settings) := by
  have covered : (ownNames s settings).1.requireAll
      ((resolverContext s settings).mentioned (resolverTypes s)) = .ok () :=
    TypeNames.requireAll_eq_ok (covers_resolverContext s settings)
  -- The definition takes three pairs apart.
  have names : TypeNames.assign settings.typeNaming s.types baseRegistry =
      ((ownNames s settings).1, (ownNames s settings).2) := by rw [Prod.mk.eta, ownNames]
  have shared : SharedNames.claim (resolverBase (ownNames s settings).1) =
      ((sharedNames s settings).1, (sharedNames s settings).2) := by rw [Prod.mk.eta, sharedNames]
  have imports : Imports.none.addAll (sharedNames s settings).2 (externalsInEffect s settings) =
      ((claimedImports s settings).1, (claimedImports s settings).2) := by
    rw [Prod.mk.eta, claimedImports]
  rw [externalsInEffect] at imports
  rw [resolverModule, names]
  dsimp only
  rw [shared]
  dsimp only
  rw [imports]
  dsimp only
  rw [resolverContext] at covered
  rw [covered]
  rfl

end Output

end GraphTypes
