import GraphTypes.Proofs.Declaration.Completeness
import GraphTypes.Proofs.Records

/-!
# Both kinds of code choose between the same objects

A value of an interface or a union is of one of several objects. Among the types these are the
identifiers that the interface or union is declared as. Where resolvers are declared they are
literals with the names of the objects, beside what the resolvers of these belong to. Each kind of
code looks the objects up by itself. Here both are held against one list (`ArePossible`), so that
the three texts that are made from it have their parts in the same order.
-/

namespace GraphTypes

open Config Name Sdl TypeScript

/-! ### What the code has to say -/

/-- Types that a value may be of, as they are written. If there are none, neither are values. -/
inductive IsChoice : List String → String → Prop
  | never : IsChoice [] "never"
  | between (first : String) (others : List String) :
    IsChoice (first :: others) (" | ".intercalate (first :: others))

/-- An object that a value of an interface or a union may be of. -/
structure PossibleObject where
  /-- The GraphQL name. -/
  object : String
  /-- How the object is referred to among the types. -/
  identifier : String
  /-- What the resolvers of the object belong to. -/
  parent : String

section Rules

variable (s : Schema) (settings : Settings)

/-- The objects that a value of an interface or a union may be of, in order: the objects that are
listed by the union, or the objects that list the interface. -/
structure ArePossible (d : TypeDef) (as : List PossibleObject) : Prop where
  objects : ∀ a ∈ as, Schema.Declares s.types .object a.object
  identifiers : ∀ a ∈ as, a.identifier = (ownContext s settings).refer a.object
  parents : ∀ a ∈ as, ∀ text, BelongsTo s settings a.object text ↔ text = a.parent
  union : d.kind = .union → as.map (·.object) = d.unionMembers
  /-- The objects stand in the order of their declaration. -/
  interface : d.kind = .interface → (as.map (·.object)).Sublist (s.types.map (·.name)) ∧
    ∀ name, name ∈ as.map (·.object) ↔
      ∃ o ∈ s.types, o.name = name ∧ o.kind = .object ∧ d.name ∈ o.interfaces

/-- An interface or a union is declared as a choice between identifiers, an interface that no object
implements as a record of its own fields. -/
structure Declaration.Chooses (d : TypeDef) (as : List PossibleObject) (e : Declaration) :
    Prop where
  choice : d.kind = .union ∨ as ≠ [] → ∃ choice, IsChoice (as.map (·.identifier)) choice ∧
    e.source settings.exportMark = docComment "" d.description ++ settings.exportMark ++ "type " ++
      e.identifier ++ " = " ++ choice ++ ";"
  record : d.kind = .interface → as = [] → ∃ members,
    e.IsRecord (ownContext s settings) .field (d.fields.map .ofField) members

/-- Among the types an interface or a union is declared, unless enums alone are asked for, and the
objects go by the identifiers that it is declared as. -/
structure ChosenAmongTypes (ds : List Declaration) (d : TypeDef) (as : List PossibleObject) :
    Prop where
  declared : (∃ e ∈ ds, e.typeName? = some d.name) ↔ settings.enumsOnly = false
  chooses : ∀ e ∈ ds, e.typeName? = some d.name → e.Chooses s settings d as
  objects : ∀ a ∈ as, ¬ isReflection a.object →
    ∀ e ∈ ds, e.typeName? = some a.object → e.identifier = a.identifier

/-- Among the resolvers the namespace of an interface or a union has a choice between literals and
a choice between parents, which are also those of the namespaces of the objects. -/
structure ChosenAmongResolvers (m : ResolverModule) (code : String) (d : TypeDef)
    (as : List PossibleObject) (ns : AbstractNamespace) : Prop where
  type : ns.type = d.name
  occurs : Occurs (ns.source m.names m.contextDefault settings.exportMark) code
  choices : ∃ names parents, IsChoice (as.map fun a => "\"" ++ a.object ++ "\"") names ∧
    IsChoice (as.map (·.parent)) parents ∧ Occurs
    ("  export type " ++ ns.resolveType ++ "<" ++ m.names.context ++ " = " ++ m.contextDefault ++
      "> = " ++ m.names.typeResolve ++ "<" ++ names ++ ", " ++ parents ++ ", ")
    (ns.source m.names m.contextDefault settings.exportMark)
  objects : ∀ a ∈ as, ∀ other, .object other ∈ m.items → other.type = a.object →
    other.parent = a.parent

/-- Both kinds of code choose between the same objects for an interface or a union. One with a name
that is reserved is in neither. -/
structure ChoicesAgree (documents : List Operation.Document) (m : ResolverModule) (code : String) :
    Prop where
  agree : List.Forall₂
    (fun d item => d.kind = .interface ∨ d.kind = .union →
      ∃ ns as, item = .abstract ns ∧ ArePossible s settings d as ∧
        ChosenAmongResolvers settings m code d as ns ∧
        ∀ ds, declarations s documents settings = .ok ds → ChosenAmongTypes s settings ds d as)
    ((resolverTypes s).filter ResolverContext.hasItem) m.items
  reserved : ∀ d ∈ s.types, d.kind = .interface ∨ d.kind = .union →
    isBuiltinScalar d.name ∨ isReflection d.name → (∀ item ∈ m.items, item.type ≠ d.name) ∧
      ∀ ds, declarations s documents settings = .ok ds →
        ∀ e ∈ ds, e.kind = .type d.kind → e.name ≠ d.name

end Rules

/-! ### The objects of an interface or a union -/

theorem isChoice_alternatives (types : List String) : IsChoice types (alternatives types) := by
  cases types with
  | nil => exact .never
  | cons first others => exact .between first others

namespace Schema

variable {s : Schema} {d : TypeDef}

theorem possibleTypes_of_union (h : d.kind = .union) : s.possibleTypes d = d.unionMembers := by
  rw [TypeDef.kind] at h
  rw [possibleTypes, TypeDef.unionMembers]
  cases hshape : d.shape <;> simp_all [Shape.kind]

theorem possibleTypes_of_interface (h : d.kind = .interface) :
    s.possibleTypes d = s.implementations d.name := by
  rw [TypeDef.kind] at h
  rw [possibleTypes]
  cases hshape : d.shape <;> simp_all [Shape.kind]

/-- The objects with what the code has for them. -/
def possibleObjects (s : Schema) (settings : Settings) (d : TypeDef) : List PossibleObject :=
  (s.possibleTypes d).map fun object =>
    { object
      identifier := (ownContext s settings).refer object
      parent := (resolverContext s settings).parentOf object }

variable (settings : Settings)

theorem map_object_possibleObjects :
    (s.possibleObjects settings d).map (·.object) = s.possibleTypes d := by
  rw [possibleObjects, List.map_map]
  exact List.map_id _

theorem arePossible (hd : d ∈ s.types) :
    ArePossible s settings d (s.possibleObjects settings d) := by
  have declared : ∀ a ∈ s.possibleObjects settings d, Declares s.types .object a.object := by
    intro a ha
    apply declares_of_mem_possibleTypes hd
    rw [← map_object_possibleObjects settings]
    exact List.mem_map_of_mem ha
  constructor
  case objects => exact declared
  case identifiers =>
    intro a ha
    obtain ⟨object, -, rfl⟩ := List.mem_map.mp ha
    rfl
  case parents =>
    intro a ha text
    obtain ⟨o, ho, named, -⟩ := declared a ha
    obtain ⟨object, -, rfl⟩ := List.mem_map.mp ha
    exact belongsTo_iff (Or.inr ⟨o, ho, named⟩)
  case union =>
    intro union
    rw [map_object_possibleObjects, possibleTypes_of_union union]
  case interface =>
    intro interface
    rw [map_object_possibleObjects, possibleTypes_of_interface interface]
    exact ⟨List.filter_sublist.map _, fun _ => mem_implementations⟩

end Schema

/-! ### Among the types -/

section Types

variable {s : Schema} {settings : Settings} {d : TypeDef} {admits : String → Bool}

theorem Schema.eq_of_name_eq {t : TypeDef} (hd : d ∈ s.types) (ht : t ∈ s.types)
    (same : t.name = d.name) : t = d := by
  have found := Schema.get?_of_mem ht
  rw [same, Schema.get?_of_mem hd] at found
  exact (Option.some.inj found).symm

/-- Only the declaration of a type goes by the name of the type. -/
theorem DeclarationContext.eq_declare_of_typeName? {c : DeclarationContext}
    {types : List TypeDef} {r : Registry} {e : Declaration} {name : String}
    (he : e ∈ (c.declareAll types r).1) (named : e.typeName? = some name) :
    ∃ t ∈ types, t.name = name ∧ e = c.declare t := by
  rcases mem_declareAll he with ⟨t, ht, rfl⟩ | ⟨arguments, -⟩
  · exact ⟨t, ht, Option.some.inj named, rfl⟩
  · rw [Declaration.typeName?, arguments] at named
    cases named

/-- What goes by a name that is not reserved is the declaration of one of the schema's own types. -/
theorem eq_declare_of_typeName? {e : Declaration} {name : String} (plain : ¬ isReflection name)
    (he : e ∈ (ownDeclarations s settings).1 ++ reflectDeclarations s settings admits)
    (named : e.typeName? = some name) :
    ∃ t ∈ ownTypes s settings, t.name = name ∧ e = (ownContext s settings).declare t := by
  rcases List.mem_append.mp he with own | reflected
  · exact DeclarationContext.eq_declare_of_typeName? own named
  · obtain ⟨t, ht, rfl, -⟩ := DeclarationContext.eq_declare_of_typeName? reflected named
    have reserved := isReflection_of_mem_metaTypes t
      (declaredTypes_subset Introspection.metaSchema settings admits ht)
    exact absurd reserved plain

theorem mem_ownTypes_iff (hd : d ∈ resolverTypes s) (other : d.kind ≠ .enum) :
    d ∈ ownTypes s settings ↔ settings.enumsOnly = false := by
  obtain ⟨hmem, plain⟩ := List.mem_filter.mp hd
  rw [ownTypes, mem_declaredTypes]
  cases settings.enumsOnly <;> simp_all

/-- A union is a choice even if there is nothing to choose from. -/
theorem body_eq_sum (h : d.kind = .union ∨ s.possibleTypes d ≠ []) :
    (ownContext s settings).body d =
      .sum ((s.possibleTypes d).map (ownContext s settings).refer) := by
  have schema : (ownContext s settings).schema = s := rfl
  rw [TypeDef.kind, Schema.possibleTypes] at h
  rw [DeclarationContext.body, Schema.possibleTypes, schema]
  cases hshape : d.shape with
  | union members => rfl
  | interface interfaces fields =>
    rw [hshape] at h
    have given := h.resolve_left (by simp [Shape.kind])
    cases implemented : s.implementations d.name with
    | nil => exact absurd implemented given
    | cons first others => simp
  | _ => simp [hshape, Shape.kind] at h

theorem chooses_declare (settings : Settings) (d : TypeDef) :
    ((ownContext s settings).declare d).Chooses s settings d (s.possibleObjects settings d) := by
  have identifiers : (s.possibleObjects settings d).map (·.identifier) =
      (s.possibleTypes d).map (ownContext s settings).refer := by
    rw [Schema.possibleObjects, List.map_map]
    rfl
  have none_iff : s.possibleObjects settings d = [] ↔ s.possibleTypes d = [] := List.map_eq_nil_iff
  constructor
  · rw [Ne, none_iff]
    intro h
    refine ⟨_, isChoice_alternatives _, ?_⟩
    show docComment "" d.description ++ settings.exportMark ++
      Declaration.bodyText _ ((ownContext s settings).body d) = _
    rw [body_eq_sum h, Declaration.bodyText, identifiers]
    simp only [String.append_assoc]
  · rw [none_iff]
    intro interface none
    rw [Schema.possibleTypes_of_interface interface, Schema.implementations_eq_nil_iff] at none
    have record : (Origin.type d).record? s = some (.field, d.fields.map .ofField) := by
      rw [TypeDef.kind] at interface
      rw [Origin.record?, TypeDef.fields]
      cases hshape : d.shape <;> simp_all [Shape.kind]
    exact (DeclarationContext.Declares.type d).recordFollows.record _ _ record

theorem chosenAmongTypes (hd : d ∈ resolverTypes s) (kind : d.kind = .interface ∨ d.kind = .union)
    (admits : String → Bool) :
    ChosenAmongTypes s settings
      ((ownDeclarations s settings).1 ++ reflectDeclarations s settings admits) d
      (s.possibleObjects settings d) := by
  obtain ⟨hmem, plain⟩ := List.mem_filter.mp hd
  have plain : ¬ isReflection d.name := by simp_all
  have other : d.kind ≠ .enum := by rcases kind with kind | kind <;> simp [kind]
  have its : ∀ e ∈ (ownDeclarations s settings).1 ++ reflectDeclarations s settings admits,
      e.typeName? = some d.name →
        d ∈ ownTypes s settings ∧ e = (ownContext s settings).declare d := by
    intro e he named
    obtain ⟨t, ht, same, rfl⟩ := eq_declare_of_typeName? plain he named
    obtain rfl := Schema.eq_of_name_eq hmem (declaredTypes_subset s settings _ ht) same
    exact ⟨ht, rfl⟩
  constructor
  · rw [← mem_ownTypes_iff hd other]
    constructor
    · rintro ⟨e, he, named⟩
      exact (its e he named).1
    · intro declared
      obtain ⟨e, he, named, ⟨kind, type⟩, -⟩ := introduces_own declared admits
      exact ⟨e, he, by rw [Declaration.typeName?, type, named]⟩
  · intro e he named
    obtain ⟨-, rfl⟩ := its e he named
    exact chooses_declare settings d
  · intro a ha plain e he named
    obtain ⟨object, -, rfl⟩ := List.mem_map.mp ha
    obtain ⟨t, -, rfl, rfl⟩ := eq_declare_of_typeName? plain he named
    rfl

end Types

/-! ### Among the resolvers -/

section Resolvers

variable {s : Schema} {settings : Settings} {d : TypeDef}

theorem parent_of_mem_items {ns : ObjectNamespace}
    (h : .object ns ∈ (resolverOutput s settings).items) :
    ns.parent = (resolverContext s settings).parentOf ns.type := by
  obtain ⟨t, -, r, -, made⟩ := (resolverContext s settings).exists_of_mem_items h
  rw [ResolverContext.objectNamespace_of_item? made]
  rfl

theorem eq_abstract_of_item? {name : String} {r : Registry} {item : ResolverItem}
    (made : (resolverContext s settings).item? d name r = some item)
    (kind : d.kind = .interface ∨ d.kind = .union) :
    item = .abstract
      ((resolverContext s settings).abstractNamespace d (s.possibleTypes d) name r) := by
  cases ResolverContext.makes_of_item? made with
  | abstract _ => rfl
  | object other => simp [other] at kind
  | scalar other => simp [other] at kind

theorem chosenAmongResolvers {name : String} {r : Registry} {ns : AbstractNamespace}
    (made : ns = (resolverContext s settings).abstractNamespace d (s.possibleTypes d) name r)
    (hitem : .abstract ns ∈ (resolverOutput s settings).items) :
    ChosenAmongResolvers settings (resolverOutput s settings)
      (String.intercalate "\n\n" ((resolverOutput s settings).sources settings.exportMark)) d
      (s.possibleObjects settings d) ns where
  type := by rw [made]; rfl
  occurs := by
    let m := resolverOutput s settings
    show Occurs ((ResolverItem.abstract ns).source m.names m.contextDefault settings.exportMark) _
    exact ResolverModule.occurs_item hitem
  choices := by
    have names : (s.possibleObjects settings d).map (fun a => "\"" ++ a.object ++ "\"") =
        ns.members.map fun member => literal member.1 := by
      rw [made]
      simp [Schema.possibleObjects, ResolverContext.abstractNamespace, literal]
    have parents : (s.possibleObjects settings d).map (·.parent) = ns.members.map (·.2) := by
      rw [made]
      simp [Schema.possibleObjects, ResolverContext.abstractNamespace]
    rw [names, parents]
    exact ⟨_, _, isChoice_alternatives _, isChoice_alternatives _, ns.occurs_alternatives⟩
  objects := by
    intro a ha other hother same
    obtain ⟨object, -, rfl⟩ := List.mem_map.mp ha
    rw [parent_of_mem_items hother, same]

end Resolvers

/-! ### Reserved names -/

section Reserved

variable {s : Schema} {settings : Settings} {d : TypeDef}
  (reserved : isBuiltinScalar d.name ∨ isReflection d.name)

include reserved

theorem type_ne_of_mem_items {item : ResolverItem}
    (h : item ∈ (resolverOutput s settings).items) : item.type ≠ d.name := by
  obtain ⟨t, ht, r, -, made⟩ := (resolverContext s settings).exists_of_mem_items h
  rw [type_of_item? made]
  intro same
  have plain := (List.mem_filter.mp ht).2
  rw [same] at plain
  rcases reserved with reserved | reserved <;> simp [reserved] at plain

/-- No introspection type is an interface or a union. -/
theorem name_ne_of_mem_declarations (kind : d.kind = .interface ∨ d.kind = .union)
    {admits : String → Bool} {e : Declaration}
    (he : e ∈ (ownDeclarations s settings).1 ++ reflectDeclarations s settings admits)
    (same : e.kind = .type d.kind) : e.name ≠ d.name := by
  intro named
  have typeName : e.typeName? = some d.name := by rw [Declaration.typeName?, same, named]
  rcases List.mem_append.mp he with own | reflected
  · obtain ⟨t, ht, shared, -⟩ := DeclarationContext.eq_declare_of_typeName? own typeName
    obtain ⟨-, unlike, plain, -⟩ := (mem_declaredTypes s settings).mp ht
    rw [shared] at unlike plain
    rcases reserved with builtin | reflection
    · exact unlike builtin
    · simp [reflection] at plain
  · obtain ⟨t, ht, -, rfl⟩ := DeclarationContext.eq_declare_of_typeName? reflected typeName
    have kinds := (kind_of_mem_metaTypes t
      (declaredTypes_subset Introspection.metaSchema settings admits ht)).1
    have kept : t.kind = d.kind := DeclarationKind.type.inj same
    rw [kept] at kinds
    rcases kind with kind | kind <;> simp [kind] at kinds

end Reserved

/-! ### Agreement -/

/-- Under a configuration that is accepted, both kinds of code choose between the same objects for
each interface and each union, in the same order. Where there are none, a union is `never` in both;
an interface is `never` among the resolvers and a record among the types. -/
theorem abstractTypes_agree {options : Options} {settings : Settings}
    (h : options.resolve = .ok settings) (s : Schema) (documents : List Operation.Document) :
    (∀ types, Generator.run s documents options .types = .ok types →
      ∃ ds, declarations s documents settings = .ok ds ∧
        types.content = String.intercalate "\n\n" (ds.map (·.source settings.exportMark))) ∧
    ∃ m resolvers, resolverModule s settings = .ok m ∧
      Generator.run s documents options .resolvers = .ok resolvers ∧
      ChoicesAgree s settings documents m resolvers.content := by
  constructor
  · intro types generated
    exact Generator.content_eq_of_runTypes h generated
  · refine ⟨resolverOutput s settings, _, resolverModule_eq s settings,
      Generator.runResolvers_eq s (Options.settings_eq_ok_iff.mpr h), ?_, ?_⟩
    · apply forall₂_resolverItems
      intro d hd item hitem r claimed found kind
      obtain rfl := eq_abstract_of_item? found kind
      refine ⟨_, s.possibleObjects settings d, rfl,
        Schema.arePossible settings (resolverTypes_subset s hd),
        chosenAmongResolvers rfl hitem, ?_⟩
      intro ds declared
      obtain ⟨admits, -, rfl⟩ := declarations_eq_ok s settings declared
      exact chosenAmongTypes hd kind admits
    · intro d _ kind reserved
      refine ⟨fun _ => type_ne_of_mem_items reserved, ?_⟩
      intro ds declared e he
      obtain ⟨admits, -, rfl⟩ := declarations_eq_ok s settings declared
      exact name_ne_of_mem_declarations reserved kind he

/-- An interface that objects on both sides of it implement, one of them a root type, an interface
that none implements, a union in an order of its own, and a union without members. -/
def Schema.catalogue : Schema where
  types :=
    [{ description := none, name := "Query"
       shape := .object ["Node"]
        [{ description := none, name := "id", arguments := [], type := .named "ID" }] },
      { description := none, name := "Node"
        shape := .interface []
          [{ description := none, name := "id", arguments := [], type := .named "ID" }] },
      { description := none, name := "Dated"
        shape := .interface []
          [{ description := none, name := "year", arguments := [], type := .named "Int" }] },
      { description := none, name := "Book"
        shape := .object ["Node"]
          [{ description := none, name := "id", arguments := [], type := .named "ID" }] },
      { description := none, name := "Author"
        shape := .object []
          [{ description := none, name := "name", arguments := [], type := .named "String" }] },
      { description := none, name := "Result", shape := .union ["Author", "Query", "Book"] },
      { description := none, name := "Nothing", shape := .union [] }]
  roots := { query := some "Query" }
  faultless := by decide +kernel

/-- The objects are replaced where resolvers are declared: one by a mapper, one by the default
mapper, and the root type by neither. -/
theorem abstractTypes_agree_catalogue :
    let options : Options :=
      { mappers := Dictionary.empty.insert "Book" "./models#BookModel"
        defaultMapper := some "Partial<\x7bT\x7d>" }
    ∃ settings, options.resolve = .ok settings ∧
      (∀ types, Generator.run Schema.catalogue [] options .types = .ok types →
        ∃ ds, declarations Schema.catalogue [] settings = .ok ds ∧
          types.content = String.intercalate "\n\n" (ds.map (·.source settings.exportMark))) ∧
      ∃ m resolvers, resolverModule Schema.catalogue settings = .ok m ∧
        Generator.run Schema.catalogue [] options .resolvers = .ok resolvers ∧
        ChoicesAgree Schema.catalogue settings [] m resolvers.content := by
  intro options
  let settings : Settings :=
    { plainSettings with
      mappers := Dictionary.empty.insert "Book" (.external ⟨"./models", "BookModel", ""⟩)
      defaultMapper := some (.inline "Partial<\x7bT\x7d>") }
  have resolved : options.resolve = .ok settings := by
    dsimp only [options]
    rfl
  exact ⟨settings, resolved, abstractTypes_agree resolved Schema.catalogue []⟩

/-- What stands for the objects of its interfaces and unions. -/
example :
    let settings :=
      { plainSettings with
        mappers := Dictionary.empty.insert "Book" (.inline "BookModel")
        defaultMapper := some (.inline "Partial<\x7bT\x7d>") }
    (Schema.catalogue.types.map fun d =>
        (Schema.catalogue.possibleObjects settings d).map fun a => (a.identifier, a.parent)) =
      [[], [("Query", "\x7b\x7d"), ("Book", "BookModel")], [], [], [],
        [("Author", "Partial<Author>"), ("Query", "\x7b\x7d"), ("Book", "BookModel")], []] := by
  decide +kernel

end GraphTypes
