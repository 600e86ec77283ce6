import GraphTypes.Proofs.Generator
import GraphTypes.Proofs.Resolver.Mapping
import GraphTypes.Proofs.Resolver.Names

/-!
# Signatures and the types in them

The rules for what stands for a type, carried to the text of the resolvers' code. In the signature
of a field and in the interface of its namespace the result is the type that a record would have for
the field, but for what stands for the named type; the parent is the same in all signatures of an
object and in its interface; and the parents of an interface or a union are those of its members.
-/

namespace GraphTypes

open Config Name Sdl TypeScript

/-! ### Parts of a text -/

/-- A text is part of another. -/
def Occurs (part whole : String) : Prop := part.toList <:+: whole.toList

namespace Occurs

variable {part text whole : String}

theorem refl (text : String) : Occurs text text := List.infix_refl text.toList

theorem trans (h : Occurs part text) (h' : Occurs text whole) : Occurs part whole :=
  List.IsInfix.trans h h'

theorem append_left (front : String) (h : Occurs part text) : Occurs part (front ++ text) := by
  rw [Occurs, String.toList_append]
  exact List.IsInfix.trans h (List.suffix_append front.toList text.toList).isInfix

theorem append_right (back : String) (h : Occurs part text) : Occurs part (text ++ back) := by
  rw [Occurs, String.toList_append]
  exact List.IsInfix.trans h (List.prefix_append text.toList back.toList).isInfix

theorem join {texts : List String} (h : text ∈ texts) : Occurs text (String.join texts) := by
  obtain ⟨before, after, rfl⟩ := List.append_of_mem h
  rw [String.join_append, String.join_cons]
  exact ((refl text).append_right _).append_left _

theorem intercalate {texts : List String} (separator : String) (h : text ∈ texts) :
    Occurs text (separator.intercalate texts) := by
  induction texts with
  | nil => cases h
  | cons first rest ih =>
    cases rest with
    | nil =>
      rw [List.mem_singleton.mp h, String.intercalate_singleton]
      exact refl first
    | cons second others =>
      rw [String.intercalate_cons_cons]
      rcases List.mem_cons.mp h with rfl | h
      · exact ((refl text).append_right _).append_right _
      · exact (ih h).append_left _

theorem indented {code : List String} (indent : String) (h : text ∈ code) :
    Occurs text (TypeScript.indented indent code) :=
  trans (((refl text).append_left indent).append_right "\n") (join (List.mem_map_of_mem h))

end Occurs

/-! ### What the text has to say -/

section Rules

variable (s : Schema) (settings : Settings) (m : ResolverModule)

/-- The result of a field is the type that a record has for it, with what stands for the named type
at its heart. The signature has this as the default of the result, and the interface as the argument
for it. -/
structure FieldResolver.Follows (ns : ObjectNamespace) (f : Field) (resolver : FieldResolver) :
    Prop where
  field : resolver.field = f.name
  result : ∃ leaf, (∀ text, StandsFor s settings f.type.innermost text ↔ text = leaf) ∧
    resolver.result = (Ty.ofTypeExpr settings.immutableTypes (ownContext s settings).refer
      f.type).withLeaf leaf
  signature : Occurs
    ("export type " ++ resolver.name ++ "<" ++ m.names.result ++ " = " ++ resolver.result.text ++
      ", " ++ m.names.parent ++ " = " ++ ns.parent ++ ", ")
    (ns.source m.names m.contextDefault settings.exportMark)
  member : Occurs (f.name ++ "?: " ++ resolver.name ++ "<" ++ resolver.result.text ++ ", ")
    (ns.source m.names m.contextDefault settings.exportMark)

/-- An object has a resolver for each field, in order, and one parent throughout. -/
structure ObjectNamespace.Follows (d : TypeDef) (ns : ObjectNamespace) : Prop where
  type : ns.type = d.name
  parent : ∀ text, BelongsTo s settings d.name text ↔ text = ns.parent
  interface : Occurs
    ("  export interface " ++ ns.resolvers ++ "<" ++ m.names.context ++ " = " ++ m.contextDefault ++
      ", " ++ m.names.typeParent ++ " = " ++ ns.parent ++ "> \x7b\n")
    (ns.source m.names m.contextDefault settings.exportMark)
  fields : List.Forall₂ (FieldResolver.Follows s settings m ns) d.fields ns.fields

/-- The objects that a value of an interface or a union may be of. -/
def Schema.possibleTypes (d : TypeDef) : List String :=
  match d.shape with
  | .interface .. => s.implementations d.name
  | .union members => members
  | _ => []

/-- An interface or a union has a parent for each of the objects. -/
structure AbstractNamespace.Follows (d : TypeDef) (ns : AbstractNamespace) : Prop where
  type : ns.type = d.name
  parents : ∃ parents, List.Forall₂
      (fun member parent => ∀ text, BelongsTo s settings member text ↔ text = parent)
      (s.possibleTypes d) parents ∧ Occurs
    ("  export type " ++ ns.resolveType ++ "<" ++ m.names.context ++ " = " ++ m.contextDefault ++
      "> = " ++ m.names.typeResolve ++ "<" ++ alternatives ((s.possibleTypes d).map literal) ++
      ", " ++ alternatives parents ++ ", ")
    (ns.source m.names m.contextDefault settings.exportMark)

/-- What is declared for a type follows the rules. Nothing is mapped for a scalar. -/
inductive ResolverItem.Follows (d : TypeDef) : ResolverItem → Prop
  | object {ns : ObjectNamespace} (kind : d.kind = .object)
    (follows : ObjectNamespace.Follows s settings m d ns) : Follows d (.object ns)
  | abstract {ns : AbstractNamespace} (kind : d.kind = .interface ∨ d.kind = .union)
    (follows : AbstractNamespace.Follows s settings m d ns) : Follows d (.abstract ns)
  | scalar (kind : d.kind = .scalar) (config : ScalarConfig) : Follows d (.scalar config)

end Rules

/-! ### How items are made -/

namespace ResolverContext

/-- What is declared for a type is one of three things, by the kind of the type. -/
inductive Makes (c : ResolverContext) (d : TypeDef) (name : String) (r : Registry) :
    ResolverItem → Prop
  | object (kind : d.kind = .object) : Makes c d name r (.object (c.objectNamespace d name r))
  | abstract (kind : d.kind = .interface ∨ d.kind = .union) :
    Makes c d name r (.abstract (c.abstractNamespace d (c.schema.possibleTypes d) name r))
  | scalar (kind : d.kind = .scalar) :
    Makes c d name r (.scalar
      { type := d.name, description := d.description, name, identifier := c.refer d.name })

theorem makes_of_item? {c : ResolverContext} {d : TypeDef} {name : String} {r : Registry}
    {item : ResolverItem} (made : c.item? d name r = some item) : c.Makes d name r item := by
  have kind : d.kind = d.shape.kind := rfl
  have possible : _ → c.Makes d name r (.abstract _) := .abstract
  rw [Schema.possibleTypes] at possible
  rw [item?] at made
  cases hshape : d.shape with
  | object interfaces fields =>
    rw [hshape] at made kind
    cases made
    exact .object kind
  | interface interfaces fields =>
    rw [hshape] at made kind possible
    cases made
    exact possible (Or.inl kind)
  | union members =>
    rw [hshape] at made kind possible
    cases made
    exact possible (Or.inr kind)
  | scalar =>
    rw [hshape] at made kind
    cases made
    exact .scalar kind
  | enum values => rw [hshape] at made; cases made
  | inputObject fields => rw [hshape] at made; cases made

end ResolverContext

/-! ### Where the text says it -/

section Text

variable {n : SharedNames} {contextDefault exportMark : String} {ns : ObjectNamespace}
  {resolver : FieldResolver}

theorem FieldResolver.occurs_defaults : Occurs
    ("export type " ++ resolver.name ++ "<" ++ n.result ++ " = " ++ resolver.result.text ++ ", " ++
      n.parent ++ " = " ++ ns.parent ++ ", ") (resolver.signature n contextDefault ns) := by
  unfold FieldResolver.signature
  iterate 13 apply Occurs.append_right
  exact .refl _

theorem FieldResolver.occurs_arguments : Occurs
    (resolver.field ++ "?: " ++ resolver.name ++ "<" ++ resolver.result.text ++ ", ")
    (resolver.member n) := by
  unfold FieldResolver.member
  iterate 4 apply Occurs.append_right
  exact .refl _

theorem FieldResolver.occurs_signature : Occurs (resolver.signature n contextDefault ns)
    (resolver.source n contextDefault ns) := by
  unfold FieldResolver.source
  apply Occurs.append_right
  apply Occurs.append_right
  exact (Occurs.refl _).append_left "  "

namespace ObjectNamespace

theorem occurs_fieldSource (h : resolver ∈ ns.fields) :
    Occurs (resolver.source n contextDefault ns) (ns.source n contextDefault exportMark) := by
  have some : ns.fields.isEmpty = false := List.isEmpty_eq_false_iff_exists_mem.mpr ⟨_, h⟩
  unfold source
  simp only [some, Bool.false_eq_true, ↓reduceIte]
  apply Occurs.append_right
  apply Occurs.append_left
  apply Occurs.append_left
  exact Occurs.join (List.mem_map_of_mem h)

theorem occurs_signature (h : resolver ∈ ns.fields) :
    Occurs (resolver.signature n contextDefault ns) (ns.source n contextDefault exportMark) :=
  FieldResolver.occurs_signature.trans (ns.occurs_fieldSource h)

theorem occurs_member (h : resolver ∈ ns.fields) :
    Occurs (resolver.member n) (ns.source n contextDefault exportMark) := by
  have line : resolver.member n ∈ ns.fields.flatMap (·.memberLines n) :=
    List.mem_flatMap.mpr ⟨resolver, h, List.mem_append_right _ List.mem_cons_self⟩
  unfold source
  dsimp only
  apply Occurs.append_right
  apply Occurs.append_right
  apply Occurs.append_right
  apply Occurs.append_left
  exact Occurs.indented "    " line

theorem occurs_interface : Occurs
    ("  export interface " ++ ns.resolvers ++ "<" ++ n.context ++ " = " ++ contextDefault ++ ", " ++
      n.typeParent ++ " = " ++ ns.parent ++ "> \x7b\n")
    (ns.source n contextDefault exportMark) := by
  unfold source
  -- The text in front is taken off while the whole is bracketed to the right, what follows while it
  -- is bracketed to the left.
  simp only [String.append_assoc]
  iterate 5 apply Occurs.append_left
  simp only [← String.append_assoc]
  iterate 4 apply Occurs.append_right
  exact .refl _

end ObjectNamespace

theorem AbstractNamespace.occurs_alternatives (ns : AbstractNamespace) : Occurs
    ("  export type " ++ ns.resolveType ++ "<" ++ n.context ++ " = " ++ contextDefault ++ "> = " ++
      n.typeResolve ++ "<" ++ alternatives (ns.members.map fun (name, _) => literal name) ++ ", " ++
      alternatives (ns.members.map (·.2)) ++ ", ") (ns.source n contextDefault exportMark) := by
  unfold source
  simp only [String.append_assoc]
  iterate 17 apply Occurs.append_left
  simp only [← String.append_assoc]
  iterate 2 apply Occurs.append_right
  exact .refl _

end Text

/-! ### All items follow the rules -/

/-- What holds of the elements that stand at the same place may depend on what is in the lists. -/
theorem forall₂_imp_of_mem {α β : Type} {R S : α → β → Prop} {as : List α} {bs : List β}
    (h : List.Forall₂ R as bs) (imp : ∀ a ∈ as, ∀ b ∈ bs, R a b → S a b) :
    List.Forall₂ S as bs := by
  rw [List.forall₂_iff_zip] at h ⊢
  refine ⟨h.1, ?_⟩
  intro a b hmem
  obtain ⟨ha, hb⟩ := List.of_mem_zip hmem
  exact imp a ha b hb (h.2 hmem)

/-- What follows from how an item is made holds of all items of a schema, each with its type. -/
theorem forall₂_resolverItems {s : Schema} {settings : Settings} {R : TypeDef → ResolverItem → Prop}
    (follows : ∀ d ∈ resolverTypes s, ∀ item ∈ resolverItems s settings, ∀ r : Registry,
      let claimed := r.claim ((resolverContext s settings).itemName d)
      (resolverContext s settings).item? d claimed.1 claimed.2 = some item → R d item) :
    List.Forall₂ R ((resolverTypes s).filter ResolverContext.hasItem)
      (resolverItems s settings) := by
  have made := (resolverContext s settings).forall₂_items (resolverTypes s)
    (claimedImports s settings).2
  apply forall₂_imp_of_mem made
  rintro d hd item hitem ⟨r, -, found⟩
  exact follows d (List.mem_filter.mp hd).1 item hitem r found

section Output

variable {s : Schema} {d : TypeDef}

theorem Schema.declares_of_mem_possibleTypes (hd : d ∈ s.types) {member : String}
    (h : member ∈ s.possibleTypes d) : Schema.Declares s.types .object member := by
  have members := (s.wellFormed.sound d hd).members member
  rw [TypeDef.unionMembers] at members
  rw [possibleTypes] at h
  cases hshape : d.shape with
  | interface interfaces fields =>
    rw [hshape] at h
    exact Schema.declares_of_mem_implementations h
  | union names =>
    rw [hshape] at h members
    exact members h
  | _ => simp [hshape] at h

variable (s) (settings : Settings)

theorem objectNamespace_follows (hd : d ∈ s.types) (name : String) (r : Registry) :
    ObjectNamespace.Follows s settings (resolverOutput s settings) d
      ((resolverContext s settings).objectNamespace d name r) where
  type := rfl
  parent _ := belongsTo_iff (Or.inr ⟨d, hd, rfl⟩)
  interface := ObjectNamespace.occurs_interface
  fields := by
    let ns := (resolverContext s settings).objectNamespace d name r
    have aligned := ResolverContext.forall₂_fieldResolvers (c := resolverContext s settings)
      d.fields (r.claim "Resolvers").2
    apply forall₂_imp_of_mem aligned
    rintro f hf resolver hresolver ⟨field, result⟩
    have inside : resolver ∈ ns.fields := hresolver
    have resolves := (s.wellFormed.sound d hd).fields f hf
    refine ⟨field, ⟨_, fun _ => standsFor_iff resolves, ?_⟩, ?_, ?_⟩
    · rw [result]
      exact Ty.ofTypeExpr_eq_withLeaf _ _ _ f.type
    · exact FieldResolver.occurs_defaults.trans (ns.occurs_signature inside)
    · rw [← field]
      exact FieldResolver.occurs_arguments.trans (ns.occurs_member inside)

theorem abstractNamespace_follows (hd : d ∈ s.types) (name : String) (r : Registry) :
    AbstractNamespace.Follows s settings (resolverOutput s settings) d
      ((resolverContext s settings).abstractNamespace d (s.possibleTypes d) name r) := by
  refine ⟨rfl, (s.possibleTypes d).map (resolverContext s settings).parentOf, ?_, ?_⟩
  · rw [List.forall₂_map_right_iff, List.forall₂_same]
    intro member hmember text
    obtain ⟨e, he, hname, -⟩ := Schema.declares_of_mem_possibleTypes hd hmember
    exact belongsTo_iff (Or.inr ⟨e, he, hname⟩)
  · let ns := (resolverContext s settings).abstractNamespace d (s.possibleTypes d) name r
    have names : (ns.members.map fun (name, _) => literal name) =
        (s.possibleTypes d).map literal := List.map_map
    have parents : ns.members.map (·.2) =
        (s.possibleTypes d).map (resolverContext s settings).parentOf := List.map_map
    rw [← names, ← parents]
    exact ns.occurs_alternatives

theorem item_follows (hd : d ∈ s.types) {name : String} {r : Registry} {item : ResolverItem}
    (made : (resolverContext s settings).item? d name r = some item) :
    ResolverItem.Follows s settings (resolverOutput s settings) d item := by
  cases ResolverContext.makes_of_item? made with
  | object kind => exact .object kind (objectNamespace_follows s settings hd name r)
  | abstract kind => exact .abstract kind (abstractNamespace_follows s settings hd name r)
  | scalar kind => exact .scalar kind _

end Output

/-- Under a configuration that is accepted resolvers are generated, and what is declared for each
type is part of the output and follows the rules, with the types in the order of the schema. -/
theorem signatures_follow_rules {options : Options} {settings : Settings}
    (h : options.resolve = .ok settings) (s : Schema) (documents : List Operation.Document) :
    ∃ m output, resolverModule s settings = .ok m ∧
      Generator.run s documents options .resolvers = .ok output ∧
      List.Forall₂ (ResolverItem.Follows s settings m)
        ((resolverTypes s).filter ResolverContext.hasItem) m.items ∧
      ∀ item ∈ m.items,
        Occurs (item.source m.names m.contextDefault settings.exportMark) output.content := by
  have generated := Generator.runResolvers_eq s (Options.settings_eq_ok_iff.mpr h)
  refine ⟨resolverOutput s settings, _, resolverModule_eq s settings, generated, ?_, ?_⟩
  · have made := (resolverContext s settings).forall₂_items (resolverTypes s)
      (claimedImports s settings).2
    apply forall₂_imp_of_mem made
    rintro d hd item - ⟨r, -, hitem⟩
    exact item_follows s settings (resolverTypes_subset s (List.mem_filter.mp hd).1) hitem
  · intro item hitem
    apply Occurs.intercalate
    rw [ResolverModule.sources]
    exact List.mem_append_left _ (List.mem_append_right _ (List.mem_map_of_mem hitem))

/-- A mapper that uses the identifier it replaces, one for a built-in scalar, which is in vain, and
a default mapper. -/
theorem signatures_follow_rules_library :
    let options : Options :=
      { mappers :=
          (Dictionary.empty.insert "Book" "./models#BookModel<\x7bT\x7d>").insert "ID" "any"
        defaultMapper := some "Partial<\x7bT\x7d>" }
    ∃ settings, options.resolve = .ok settings ∧
      ∃ m output, resolverModule Schema.library settings = .ok m ∧
        Generator.run Schema.library [] options .resolvers = .ok output ∧
        List.Forall₂ (ResolverItem.Follows Schema.library settings m)
          ((resolverTypes Schema.library).filter ResolverContext.hasItem) m.items ∧
        ∀ item ∈ m.items,
          Occurs (item.source m.names m.contextDefault settings.exportMark) output.content := by
  intro options
  let book : Reference := .external ⟨"./models", "BookModel", "<\x7bT\x7d>"⟩
  let settings : Settings :=
    { plainSettings with
      mappers := (Dictionary.empty.insert "Book" book).insert "ID" (.inline "any")
      defaultMapper := some (.inline "Partial<\x7bT\x7d>") }
  have resolved : options.resolve = .ok settings := by
    dsimp only [options]
    rfl
  exact ⟨settings, resolved, signatures_follow_rules resolved Schema.library []⟩

end GraphTypes
