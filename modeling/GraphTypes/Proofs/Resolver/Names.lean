import GraphTypes.Proofs.Declaration.Uniqueness
import GraphTypes.Proofs.Resolver.Structure

/-!
# Names of the resolvers' code

All names at the top level of the resolvers' code are claimed in one registry: the shared names, the
local names of imports, then the names of the items. A namespace has a scope of its own on top of
what was in use when it was opened, so what it declares is unlike everything that was claimed before
it. What is claimed after it are names of items, and these end as no name in a namespace does
(`isInner`).
-/

namespace GraphTypes

open Config Name Sdl

theorem SharedNames.claims_claim (r : Registry) :
    Registry.Claims r (claim r).1.toList (claim r).2 := by
  rw [toList_claim]
  exact Registry.claims_claimAll r usual.toList

/-! ### Local names of imports -/

namespace Imports

/-- The local names of imports are what was claimed since only `start` was in use, one for each
symbol. -/
structure Claimed (start : Registry) (imports : Imports) (r : Registry) : Prop where
  fresh : ∀ {ref l}, imports.localName? ref = some l → l ∉ start.taken
  injective : ∀ {ref other l}, imports.localName? ref = some l →
    imports.localName? other = some l →
      ref.modulePath = other.modulePath ∧ ref.symbol = other.symbol
  mem_taken : ∀ {l}, l ∈ r.taken ↔ (∃ ref, imports.localName? ref = some l) ∨ l ∈ start.taken

variable {start r : Registry} {imports : Imports}

theorem claimed_none (start : Registry) : Claimed start none start where
  fresh h := by cases h
  injective h := by cases h
  mem_taken := by
    intro l
    constructor
    · exact Or.inr
    · rintro (⟨_, h⟩ | h)
      · cases h
      · exact h

section New

variable {ref : ExternalRef} (new : imports.localName? ref = Option.none)

include new

/-- A reference that is new gets a name that is claimed for it. -/
theorem localName?_add_of_new (other : ExternalRef) :
    (imports.add r ref).1.localName? other =
      if other.modulePath = ref.modulePath ∧ other.symbol = ref.symbol then
        some (r.available (wantedName r ref.symbol))
      else imports.localName? other := by
  rw [localName?_add, new]
  rfl

theorem snd_add_of_new : (imports.add r ref).2 = (r.claim (wantedName r ref.symbol)).2 := by
  rw [add, new]

theorem exists_localName?_add_of_new {l : String} :
    (∃ other, (imports.add r ref).1.localName? other = some l) ↔
      l = r.available (wantedName r ref.symbol) ∨ ∃ other, imports.localName? other = some l := by
  constructor
  · rintro ⟨other, hother⟩
    rw [localName?_add_of_new new] at hother
    split at hother
    · exact Or.inl (Option.some.inj hother).symm
    · exact Or.inr ⟨other, hother⟩
  · rintro (rfl | ⟨other, hother⟩)
    · exact ⟨ref, by rw [localName?_add_of_new new, if_pos ⟨rfl, rfl⟩]⟩
    · refine ⟨other, ?_⟩
      have apart : ¬ (other.modulePath = ref.modulePath ∧ other.symbol = ref.symbol) := by
        intro same
        rw [localName?_congr same.1 same.2, new] at hother
        cases hother
      rw [localName?_add_of_new new, if_neg apart, hother]

theorem Claimed.add_of_new (h : Claimed start imports r) :
    Claimed start (imports.add r ref).1 (imports.add r ref).2 := by
  have unused := r.available_not_mem (wantedName r ref.symbol)
  have before : ∀ {other l}, imports.localName? other = some l → l ∈ r.taken :=
    fun hl => h.mem_taken.mpr (Or.inl ⟨_, hl⟩)
  constructor
  · intro other l hl
    rcases (exists_localName?_add_of_new new).mp ⟨other, hl⟩ with rfl | ⟨_, hl⟩
    · exact fun used => unused (h.mem_taken.mpr (Or.inr used))
    · exact h.fresh hl
  · intro first second l hfirst hsecond
    rw [localName?_add_of_new new] at hfirst hsecond
    split at hfirst <;> split at hsecond
    · next same same' => exact ⟨same.1.trans same'.1.symm, same.2.trans same'.2.symm⟩
    · cases hfirst
      exact absurd (before hsecond) unused
    · cases hsecond
      exact absurd (before hfirst) unused
    · exact h.injective hfirst hsecond
  · intro l
    rw [snd_add_of_new new, Registry.mem_taken_claim, h.mem_taken,
      exists_localName?_add_of_new new, or_assoc]

end New

theorem Claimed.add (h : Claimed start imports r) (ref : ExternalRef) :
    Claimed start (imports.add r ref).1 (imports.add r ref).2 := by
  cases known : imports.localName? ref with
  | none => exact h.add_of_new known
  | some l =>
    have same : imports.add r ref = (imports, r) := by rw [Imports.add, known]
    rw [same]
    exact h

theorem Claimed.addAll (h : Claimed start imports r) (refs : List ExternalRef) :
    Claimed start (imports.addAll r refs).1 (imports.addAll r refs).2 := by
  induction refs generalizing imports r with
  | nil => exact h
  | cons ref rest ih => exact ih (h.add ref)

theorem mem_localNames_iff {l : String} :
    l ∈ imports.specifiers.map (·.localName) ↔ ∃ ref, imports.localName? ref = some l := by
  rw [List.mem_map]
  constructor
  · rintro ⟨⟨modulePath, symbol, _⟩, hmem, rfl⟩
    exact ⟨⟨modulePath, symbol, ""⟩, localName?_eq_some_iff.mpr hmem⟩
  · rintro ⟨ref, hl⟩
    exact ⟨_, localName?_eq_some_iff.mp hl, rfl⟩

theorem Claimed.claims (h : Claimed start imports r) :
    Registry.Claims start (imports.specifiers.map (·.localName)) r where
  nodup := by
    apply List.Nodup.map_on _ (.of_map _ imports.nodup_specifiers)
    rintro ⟨modulePath, symbol, l⟩ hx ⟨modulePath', symbol', _⟩ hy rfl
    have found : imports.localName? ⟨modulePath, symbol, ""⟩ = some l :=
      localName?_eq_some_iff.mpr hx
    have found' : imports.localName? ⟨modulePath', symbol', ""⟩ = some l :=
      localName?_eq_some_iff.mpr hy
    have same := h.injective found found'
    rw [ImportSpecifier.mk.injEq]
    exact ⟨same.1, same.2, rfl⟩
  fresh l hl := by
    obtain ⟨ref, href⟩ := mem_localNames_iff.mp hl
    exact h.fresh href
  mem_taken := by
    intro l
    rw [h.mem_taken, mem_localNames_iff]

end Imports

/-! ### Names in a namespace -/

/-- The names that are declared for a field. -/
def FieldResolver.names (resolver : FieldResolver) : List String :=
  resolver.name :: (resolver.arguments.map (·.name)).toList

/-- The names that are declared inside of what is declared for a type. -/
def ResolverItem.innerNames : ResolverItem → List String
  | object ns => ns.resolvers :: ns.fields.flatMap FieldResolver.names
  | abstract ns => [ns.resolvers, ns.resolveType]
  | scalar _ => []

namespace ResolverContext

variable (c : ResolverContext)

/-- The names wanted for a field. -/
def fieldNames (f : Field) : List String :=
  (pascalCase f.name ++ "Resolver") ::
    if f.arguments.isEmpty then [] else [pascalCase f.name ++ "Args"]

/-- The names wanted inside of what is declared for a type. -/
def innerNames (d : TypeDef) : List String :=
  match d.kind with
  | .object => "Resolvers" :: d.fields.flatMap fieldNames
  | .interface | .union => ["Resolvers", "ResolveType"]
  | .scalar | .enum | .inputObject => []

theorem names_fieldResolver (f : Field) (scope : Registry) :
    (c.fieldResolver f scope).1.names = (scope.claimAll (fieldNames f)).1 ∧
      (c.fieldResolver f scope).2 = (scope.claimAll (fieldNames f)).2 := by
  unfold fieldResolver claimArguments fieldNames
  cases f.arguments.isEmpty <;> exact ⟨rfl, rfl⟩

theorem names_fieldResolvers (fields : List Field) (scope : Registry) :
    (c.fieldResolvers fields scope).flatMap FieldResolver.names =
      (scope.claimAll (fields.flatMap fieldNames)).1 := by
  induction fields generalizing scope with
  | nil => rfl
  | cons f rest ih =>
    obtain ⟨names, after⟩ := c.names_fieldResolver f scope
    rw [List.flatMap_cons, Registry.claimAll_append, ← after, ← names, ← ih]
    rfl

/-- The names in a namespace are claimed one after the other. -/
theorem innerNames_of_item? {c : ResolverContext} {d : TypeDef} {name : String} {r : Registry}
    {item : ResolverItem} (h : c.item? d name r = some item) :
    item.innerNames = (r.claimAll (innerNames d)).1 := by
  rw [item?] at h
  rw [innerNames, TypeDef.kind]
  cases hshape : d.shape <;> rw [hshape] at h <;> cases h
  case object => exact congrArg (_ :: ·) (c.names_fieldResolvers d.fields _)
  all_goals rfl

end ResolverContext

/-! ### Inner names and names of items -/

/-- What the names in a namespace end in, save for the one that is `Resolvers`. -/
def innerEnds : List String := ["Resolver", "Args", "ResolveType"]

/-- Whether a name is of the form of those in a namespace. Numbers at its end do not count. -/
def isInner (name : String) : Bool :=
  Registry.stem name == "Resolvers".toList.reverse ||
    innerEnds.any fun e => e.toList.reverse.isPrefixOf (Registry.stem name)

theorem isInner_iff {name : String} :
    isInner name ↔ Registry.stem name = "Resolvers".toList.reverse ∨
      ∃ e ∈ innerEnds, e.toList.reverse <+: Registry.stem name := by
  rw [isInner, Bool.or_eq_true, beq_iff_eq, List.any_eq_true]
  simp only [List.isPrefixOf_iff_prefix]

theorem isInner_available (r : Registry) (base : String) :
    isInner (r.available base) = isInner base := by
  rw [isInner, isInner, Registry.stem_available]

theorem isInner_append (front : String) {back : String} (h : back ∈ innerEnds) :
    isInner (front ++ back) := by
  have noDigit : ∀ back ∈ innerEnds, back.toList.getLast?.any (!·.isDigit) := by decide
  exact isInner_iff.mpr (Or.inr ⟨back, h, Registry.prefix_stem_append front (noDigit back h)⟩)

theorem isInner_of_mem_innerNames {d : TypeDef} {name : String}
    (h : name ∈ ResolverContext.innerNames d) : isInner name := by
  have field : ∀ f, ∀ name ∈ ResolverContext.fieldNames f, isInner name := by
    intro f name hname
    rw [ResolverContext.fieldNames] at hname
    rcases List.mem_cons.mp hname with rfl | hname
    · exact isInner_append _ (by decide)
    · split at hname
      · cases hname
      · rw [List.mem_singleton.mp hname]
        exact isInner_append _ (by decide)
  have fixed : ∀ name ∈ ["Resolvers", "ResolveType"], isInner name := by decide
  rw [ResolverContext.innerNames] at h
  cases hkind : d.kind <;> rw [hkind] at h
  case object =>
    rcases List.mem_cons.mp h with rfl | h
    · exact fixed _ (by decide)
    · obtain ⟨f, -, hf⟩ := List.mem_flatMap.mp h
      exact field f name hf
  case interface => exact fixed name h
  case union => exact fixed name h
  all_goals cases h

theorem ResolverContext.isInner_of_item? {c : ResolverContext} {d : TypeDef} {name inner : String}
    {r : Registry} {item : ResolverItem} (made : c.item? d name r = some item)
    (h : inner ∈ item.innerNames) : isInner inner := by
  rw [innerNames_of_item? made] at h
  obtain ⟨base, hbase, r', -, rfl⟩ := Registry.mem_claimAll h
  rw [isInner_available]
  exact isInner_of_mem_innerNames hbase

/-- No item has a name like those in a namespace, as something stands in front of `Resolvers`. -/
theorem not_isInner_itemName {c : ResolverContext} {d : TypeDef} (h : c.refer d.name ≠ "") :
    ¬ isInner (c.itemName d) := by
  have apart : ∀ back ∈ ["ScalarConfig", "Resolvers"],
      "Resolvers".toList.length ≤ back.toList.length ∧
        ∀ e ∈ innerEnds, ¬ e.toList.reverse <+: back.toList.reverse ∧
          ¬ back.toList.reverse <+: e.toList.reverse := by decide
  have item : ∃ back ∈ ["ScalarConfig", "Resolvers"], Registry.stem (c.itemName d) =
      back.toList.reverse ++ (c.refer d.name).toList.reverse := by
    rw [ResolverContext.itemName]
    split
    · exact ⟨_, by decide, Registry.stem_append _ (by decide)⟩
    · exact ⟨_, by decide, Registry.stem_append _ (by decide)⟩
  obtain ⟨back, hback, hstem⟩ := item
  rw [isInner_iff, hstem]
  rintro (same | ⟨e, he, ends⟩)
  · -- The name would be too long.
    have lengths := congrArg List.length same
    simp only [List.length_append, List.length_reverse] at lengths
    have none : (c.refer d.name).toList.length = 0 := by
      have long := (apart back hback).1
      omega
    exact h (by simpa using none)
  · rcases List.prefix_or_prefix_of_prefix ends (List.prefix_append _ _) with front | front
    · exact ((apart back hback).2 e he).1 front
    · exact ((apart back hback).2 e he).2 front

/-! ### Names of items -/

namespace ResolverContext

variable (c : ResolverContext)

theorem map_name_items (types : List TypeDef) (r : Registry) :
    (c.items types r).map (·.name) =
      (r.claimAll ((types.filter hasItem).map c.itemName)).1 := by
  induction types generalizing r with
  | nil => rfl
  | cons d rest ih =>
    rw [items]
    dsimp only
    have some? := c.isSome_item? d (r.claim (c.itemName d)).1 (r.claim (c.itemName d)).2
    cases hitem : c.item? d (r.claim (c.itemName d)).1 (r.claim (c.itemName d)).2 with
    | none =>
      rw [hitem] at some?
      rw [List.filter_cons_of_neg (by simp [← some?]), ← ih]
    | some item =>
      rw [hitem] at some?
      rw [List.filter_cons_of_pos some?.symm, List.map_cons, List.map_cons, Registry.claimAll_cons,
        ih, name_of_item? hitem]
      rfl

end ResolverContext

/-! ### The names of a whole output -/

section Output

variable (s : Schema) (settings : Settings)

/-- The names in use before the resolvers' code claims any. -/
def usedNames : List String :=
  reservedNames ++ (ownNames s settings).1.identifiers ++ [resolveInfo, scalarType, scalarTypeConfig]

/-- The names that the resolvers' code claims at the top level: the shared names, the local names of
the references in effect, and the names of the items. -/
def claimedNames (m : ResolverModule) : List String :=
  m.names.toList ++ (claimedImports s settings).1.specifiers.map (·.localName) ++
    m.items.map (·.name)

theorem claims_imports : Registry.Claims (resolverBase (ownNames s settings).1)
    ((sharedNames s settings).1.toList ++
      (claimedImports s settings).1.specifiers.map (·.localName))
    (claimedImports s settings).2 := by
  have imports := (Imports.claimed_none (sharedNames s settings).2).addAll
    (externalsInEffect s settings)
  exact (SharedNames.claims_claim _).append imports.claims

theorem claims_claimedNames : ∃ r, Registry.Claims (resolverBase (ownNames s settings).1)
    (claimedNames s settings (resolverOutput s settings)) r := by
  have items := Registry.claims_claimAll (claimedImports s settings).2
    (((resolverTypes s).filter ResolverContext.hasItem).map (resolverContext s settings).itemName)
  rw [← (resolverContext s settings).map_name_items] at items
  exact ⟨_, (claims_imports s settings).append items⟩

variable {s settings}

theorem disjoint_usedNames {names : List String} {r : Registry}
    (h : ∀ name ∈ names, name ∉ r.taken)
    (sub : (resolverBase (ownNames s settings).1).taken ⊆ r.taken) :
    names.Disjoint (usedNames s settings) := by
  intro name hname used
  apply h name hname
  apply sub
  rw [mem_taken_resolverBase]
  rw [usedNames, List.mem_append, List.mem_append] at used
  tauto

theorem not_isInner_of_mem_items (named : s.HasNames) {item : ResolverItem}
    (h : item ∈ resolverItems s settings) : ¬ isInner item.name := by
  obtain ⟨d, hd, r, -, made⟩ := (resolverContext s settings).exists_of_mem_items h
  obtain ⟨hmem, kept⟩ := List.mem_filter.mp hd
  rw [Bool.and_eq_true, Bool.not_eq_true', ← Bool.not_eq_true] at kept
  have isName : IsName ((resolverContext s settings).refer d.name) :=
    (ownContext s settings).isName_refer rfl (fun d hd => (named d hd).1) hmem kept.1
  have something : (resolverContext s settings).refer d.name ≠ "" := by
    intro none
    rw [none] at isName
    exact absurd isName (by decide)
  rw [ResolverContext.name_of_item? made]
  show ¬ isInner (r.available _)
  rw [isInner_available]
  exact not_isInner_itemName something

theorem exists_localName_mem_claimedNames (m : ResolverModule) {ref : ExternalRef}
    (h : ref ∈ externalsInEffect s settings) : ∃ l ∈ claimedNames s settings m,
      (claimedImports s settings).1.localName? ref = some l := by
  obtain ⟨l, hl⟩ := exists_localName?_claimedImports s settings h
  refine ⟨l, ?_, hl⟩
  rw [claimedNames, List.mem_append, List.mem_append]
  exact Or.inl (Or.inr (Imports.mem_localNames_iff.mpr ⟨ref, hl⟩))

/-- If the types of a schema have GraphQL names, each name that the resolvers' code claims at the
top level, that of each reference in effect included, is unlike all others and all names in use
before, and so is each name that is declared in a namespace: it is unlike the others there and
unlike all names at the top level. -/
theorem resolverModule_names (named : s.HasNames) :
    ∃ m, resolverModule s settings = .ok m ∧
      (∀ ref ∈ externalsInEffect s settings, ∃ l ∈ claimedNames s settings m,
        (claimedImports s settings).1.localName? ref = some l) ∧
      (claimedNames s settings m).Nodup ∧
      (claimedNames s settings m).Disjoint (usedNames s settings) ∧
      ∀ item ∈ m.items, item.innerNames.Nodup ∧
        item.innerNames.Disjoint (claimedNames s settings m) ∧
        item.innerNames.Disjoint (usedNames s settings) := by
  obtain ⟨r, claims⟩ := claims_claimedNames s settings
  refine ⟨_, resolverModule_eq s settings, fun _ => exists_localName_mem_claimedNames _,
    claims.nodup, disjoint_usedNames claims.fresh (List.Subset.refl _), ?_⟩
  intro item hitem
  obtain ⟨d, -, r', hsub, made⟩ := (resolverContext s settings).exists_of_mem_items hitem
  have inner := Registry.claims_claimAll (r'.claim ((resolverContext s settings).itemName d)).2
    (ResolverContext.innerNames d)
  rw [← ResolverContext.innerNames_of_item? made] at inner
  have inUse : (claimedImports s settings).2.taken ⊆
      (r'.claim ((resolverContext s settings).itemName d)).2.taken :=
    List.Subset.trans hsub (Registry.taken_subset_claim r' _)
  refine ⟨inner.nodup, ?_, disjoint_usedNames inner.fresh
    (List.Subset.trans (taken_subset_claimedImports s settings) inUse)⟩
  intro name hname claimed
  rcases List.mem_append.mp claimed with before | others
  · exact inner.fresh name hname (inUse ((claims_imports s settings).subset_taken before))
  · -- Some items are named after the namespace was closed, but none of them like this.
    obtain ⟨other, hother, rfl⟩ := List.mem_map.mp others
    exact not_isInner_of_mem_items named hother (ResolverContext.isInner_of_item? made hname)

/-- Every kind of type, and a context whose own name is in use. -/
theorem resolverModule_names_library :
    ∃ settings, Options.resolve { contextType := some "./context#Context" } = .ok settings ∧
      Schema.library.HasNames ∧
      ∃ m, resolverModule Schema.library settings = .ok m ∧
        (∀ ref ∈ externalsInEffect Schema.library settings,
          ∃ l ∈ claimedNames Schema.library settings m,
            (claimedImports Schema.library settings).1.localName? ref = some l) ∧
        (claimedNames Schema.library settings m).Nodup ∧
        (claimedNames Schema.library settings m).Disjoint (usedNames Schema.library settings) ∧
        ∀ item ∈ m.items, item.innerNames.Nodup ∧
          item.innerNames.Disjoint (claimedNames Schema.library settings m) ∧
          item.innerNames.Disjoint (usedNames Schema.library settings) := by
  have named : Schema.library.HasNames := by decide +kernel
  exact ⟨{ plainSettings with contextType := some (.external ⟨"./context", "Context", ""⟩) }, rfl,
    named, resolverModule_names named⟩

end Output

end GraphTypes
