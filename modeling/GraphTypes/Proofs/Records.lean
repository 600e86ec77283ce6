import GraphTypes.Proofs.Resolver.Layout
import GraphTypes.Proofs.SelfContained
import GraphTypes.Proofs.TypeScript.Wrappers

/-!
# Records

Objects, input objects, interfaces without implementations, and the arguments of fields are all
declared as records, the last in both kinds of code. One law holds of the members of all of them:
there is a member for each field or argument, in order; it is wrapped in `Maybe` exactly if null is
admitted, at the outside as at each depth of its lists; and it is marked optional exactly if null is
admitted and the settings do not ask that members of this kind be there (`Member.Follows`).

What is wrapped and what is marked is decided in different places, the one by recursion over the
reference, the other by a look at its outside. So the wrappers are counted, one number for each
depth (`Ty.maybes_ofTypeExpr`), and the first number is the one that the mark has to agree with. The
text of a member has the same count (`Ty.isWrapped_ofTypeExpr_iff`), and no other.
-/

namespace GraphTypes

open Config Name Sdl TypeScript

/-! ### Members -/

/-- What a member of a record is made from: a field, a field of an input object, or an argument. -/
structure Slot where
  description : Option String
  name : String
  type : TypeExpr

/-- The slot of a field. -/
def Slot.ofField (f : Field) : Slot := ⟨f.description, f.name, f.type⟩

/-- The slot of an argument or of a field of an input object. -/
def Slot.ofInput (v : InputValue) : Slot := ⟨v.description, v.name, v.type⟩

/-- The flags that keep members of a kind from being marked optional. -/
inductive Config.MemberFlags.Covers (flags : MemberFlags) : MemberKind → Prop
  | field (h : flags.field) : Covers flags .field
  | inputValue (h : flags.inputValue) : Covers flags .inputValue
  | argument (h : flags.argument) : Covers flags .argument

theorem Config.MemberFlags.get_eq_false_iff {flags : MemberFlags} {kind : MemberKind} :
    flags.get kind = false ↔ ¬ flags.Covers kind := by
  rw [← Bool.not_eq_true]
  apply not_congr
  constructor
  · cases kind with
    | field => exact .field
    | inputValue => exact .inputValue
    | argument => exact .argument
  · rintro (h | h | h) <;> exact h

/-- The law that members follow. -/
structure TypeScript.Member.Follows (c : DeclarationContext) (kind : MemberKind) (slot : Slot)
    (m : Member) : Prop where
  name : m.name = slot.name
  description : m.description = slot.description
  /-- Where null is not admitted there is neither a mark nor a wrapper on the outside. -/
  required : slot.type.isNullable = false → m.optional = false ∧ m.type.maybes.head? = some 0
  /-- Where it is there is one wrapper, and a mark unless members of this kind have to be there. -/
  nullable : slot.type.isNullable → m.type.maybes.head? = some 1 ∧
    (m.optional ↔ ¬ c.settings.avoidOptionals.Covers kind)
  /-- There is one wrapper at each depth at which null is admitted, and none at the others. -/
  wrapped : m.type.maybes = slot.type.nullability.map Bool.toNat
  readonly : m.readonly = c.settings.immutableTypes
  /-- Each list is an array, and all of these are alike. -/
  arrays : m.type.arrays = List.replicate slot.type.depth c.settings.immutableTypes
  leaf : m.type.leafText = c.refer slot.type.innermost
  /-- This is all that is written. The text for the type has the same wrappers, and no others. -/
  text : ∃ type, m.signature = (if m.readonly then "readonly " else "") ++ slot.name ++
      (if m.optional then "?" else "") ++ ": " ++ type ++ ";" ∧
    ∀ maybes arrays, IsWrapped (c.refer slot.type.innermost) maybes arrays type ↔
      maybes = slot.type.nullability.map Bool.toNat ∧
        arrays = List.replicate slot.type.depth c.settings.immutableTypes

/-- A member behind its doc comment, as it stands in a record. -/
def TypeScript.Member.block (indent : String) (m : Member) : String :=
  docComment indent m.description ++ indent ++ m.signature ++ "\n"

theorem indented_members (indent : String) (members : List Member) :
    indented indent (members.flatMap Member.lines) =
      String.join (members.map (·.block indent)) := by
  rw [indented_flatMap]
  refine congrArg String.join (List.map_congr_left fun m _ => ?_)
  exact indented_comment indent m.signature m.description

namespace DeclarationContext

variable (c : DeclarationContext)

theorem follows_member (kind : MemberKind) (slot : Slot) :
    Member.Follows c kind slot (c.member kind slot.description slot.name slot.type) := by
  have wrapped : (c.member kind slot.description slot.name slot.type).type.maybes =
      slot.type.nullability.map Bool.toNat :=
    Ty.maybes_ofTypeExpr c.settings.immutableTypes c.refer slot.type
  have outside : (c.member kind slot.description slot.name slot.type).type.maybes.head? =
      some slot.type.isNullable.toNat := by
    rw [wrapped, TypeExpr.nullability_eq_cons]
    rfl
  constructor
  case required =>
    intro forbidden
    rw [outside, forbidden]
    simp [member, forbidden]
  case nullable =>
    intro admitted
    rw [outside, admitted, ← MemberFlags.get_eq_false_iff]
    simp [member, admitted, Settings.marksOptional]
  case wrapped => exact wrapped
  case arrays => exact Ty.arrays_ofTypeExpr _ _ slot.type
  case leaf => exact Ty.leafText_ofTypeExpr _ _ slot.type
  case text => exact ⟨_, rfl, fun _ _ => Ty.isWrapped_ofTypeExpr_iff _ _ slot.type⟩
  all_goals rfl

theorem forall₂_fieldMembers (fields : List Field) :
    List.Forall₂ (Member.Follows c .field) (fields.map Slot.ofField) (c.fieldMembers fields) := by
  rw [fieldMembers, List.forall₂_map_left_iff, List.forall₂_map_right_iff, List.forall₂_same]
  intro f _
  exact c.follows_member .field (.ofField f)

theorem forall₂_inputMembers (kind : MemberKind) (values : List InputValue) :
    List.Forall₂ (Member.Follows c kind) (values.map Slot.ofInput)
      (c.inputMembers kind values) := by
  rw [inputMembers, List.forall₂_map_left_iff, List.forall₂_map_right_iff, List.forall₂_same]
  intro v _
  exact c.follows_member kind (.ofInput v)

end DeclarationContext

/-! ### Records among declarations -/

/-- An object of a schema lists an interface. -/
def Schema.IsImplemented (s : Schema) (interface : String) : Prop :=
  ∃ o ∈ s.types, o.kind = .object ∧ interface ∈ o.interfaces

instance (s : Schema) (interface : String) : Decidable (s.IsImplemented interface) :=
  inferInstanceAs (Decidable (∃ o ∈ s.types, o.kind = .object ∧ interface ∈ o.interfaces))

theorem Schema.implementations_eq_nil_iff {s : Schema} {interface : String} :
    s.implementations interface = [] ↔ ¬ s.IsImplemented interface := by
  rw [List.eq_nil_iff_forall_not_mem]
  simp only [mem_implementations]
  constructor
  · rintro none ⟨o, ho, object, lists⟩
    exact none o.name ⟨o, ho, rfl, object, lists⟩
  · rintro none _ ⟨o, ho, -, object, lists⟩
    exact none ⟨o, ho, object, lists⟩

/-- The kind and the slots of the members, where what is declared is a record. An interface is one
if no object implements it. -/
def Origin.record? (s : Schema) : Origin → Option (MemberKind × List Slot)
  | type d =>
    match d.shape with
    | .object _ fields => some (.field, fields.map .ofField)
    | .interface _ fields =>
      if s.IsImplemented d.name then none else some (.field, fields.map .ofField)
    | .inputObject fields => some (.inputValue, fields.map .ofInput)
    | .scalar | .union _ | .enum _ => none
  | arguments _ field => some (.argument, field.arguments.map .ofInput)

/-- A declaration is a record with a member for each slot, and is written with these members. -/
structure Declaration.IsRecord (c : DeclarationContext) (kind : MemberKind) (slots : List Slot)
    (e : Declaration) (members : List Member) : Prop where
  body : e.body = .record members
  follows : List.Forall₂ (Member.Follows c kind) slots members
  text : e.source c.settings.exportMark = docComment "" e.description ++ c.settings.exportMark ++
    "interface " ++ e.identifier ++
    (if slots.isEmpty then " \x7b\x7d"
      else " \x7b\n" ++ String.join (members.map (·.block "  ")) ++ "\x7d")

/-- What is declared is a record exactly if it has to be. -/
structure Origin.RecordFollows (c : DeclarationContext) (o : Origin) (e : Declaration) : Prop where
  record : ∀ kind slots, o.record? c.schema = some (kind, slots) →
    ∃ members, e.IsRecord c kind slots members
  other : o.record? c.schema = none → ∀ members, e.body ≠ .record members

section Declarations

variable {c : DeclarationContext} {o : Origin} {e : Declaration}

theorem Declaration.isRecord_of_body {kind : MemberKind} {slots : List Slot}
    {members : List Member} (body : e.body = .record members)
    (follows : List.Forall₂ (Member.Follows c kind) slots members) :
    e.IsRecord c kind slots members := by
  refine ⟨body, follows, ?_⟩
  have empty : slots.isEmpty = members.isEmpty := by cases follows <;> rfl
  rw [source, body, bodyText, indented_members, empty]
  split <;> simp only [String.append_assoc]

theorem Origin.recordFollows_of_record {kind : MemberKind} {slots : List Slot}
    {members : List Member} (expected : o.record? c.schema = some (kind, slots))
    (body : e.body = .record members)
    (follows : List.Forall₂ (Member.Follows c kind) slots members) : o.RecordFollows c e := by
  constructor
  · rw [expected]
    rintro _ _ ⟨⟩
    exact ⟨members, Declaration.isRecord_of_body body follows⟩
  · rw [expected]
    rintro ⟨⟩

theorem Origin.recordFollows_of_none (expected : o.record? c.schema = none)
    (other : ∀ members, e.body ≠ .record members) : o.RecordFollows c e := by
  constructor
  · rw [expected]
    rintro _ _ ⟨⟩
  · intro _
    exact other

/-- All records are made in one of three ways, and what is no record is declared with another body.
-/
theorem DeclarationContext.Declares.recordFollows (h : c.Declares o e) : o.RecordFollows c e := by
  cases h with
  | arguments d f identifier =>
    exact Origin.recordFollows_of_record rfl rfl (c.forall₂_inputMembers .argument f.arguments)
  | type d =>
    have body : (c.declare d).body = c.body d := rfl
    rw [DeclarationContext.body] at body
    cases hshape : d.shape with
    | scalar =>
      rw [hshape] at body
      exact Origin.recordFollows_of_none (by simp [Origin.record?, hshape]) (by simp [body])
    | enum values =>
      rw [hshape] at body
      apply Origin.recordFollows_of_none (by simp [Origin.record?, hshape])
      rw [body]
      cases c.settings.enumStyle <;> simp
    | object interfaces fields =>
      rw [hshape] at body
      exact Origin.recordFollows_of_record (by simp [Origin.record?, hshape]) body
        (c.forall₂_fieldMembers fields)
    | interface interfaces fields =>
      rw [hshape] at body
      have known : c.schema.implementations d.name = [] ↔ ¬ c.schema.IsImplemented d.name :=
        Schema.implementations_eq_nil_iff
      cases implementations : c.schema.implementations d.name with
      | nil =>
        simp only [implementations] at body
        have unimplemented := known.mp implementations
        exact Origin.recordFollows_of_record (by simp [Origin.record?, hshape, unimplemented]) body
          (c.forall₂_fieldMembers fields)
      | cons object others =>
        simp only [implementations] at body
        have implemented : c.schema.IsImplemented d.name := by simpa [implementations] using known
        exact Origin.recordFollows_of_none (by simp [Origin.record?, hshape, implemented])
          (by simp [body])
    | union members =>
      rw [hshape] at body
      exact Origin.recordFollows_of_none (by simp [Origin.record?, hshape]) (by simp [body])
    | inputObject fields =>
      rw [hshape] at body
      exact Origin.recordFollows_of_record (by simp [Origin.record?, hshape]) body
        (c.forall₂_inputMembers .inputValue fields)

end Declarations

/-! ### Records among resolvers -/

theorem ArgumentRecord.source_eq (record : ArgumentRecord) : record.source =
    "  export interface " ++ record.name ++ " \x7b\n" ++
      String.join (record.members.map (·.block "    ")) ++ "  \x7d\n" := by
  unfold source
  rw [indented_members]

/-- A record for the resolver of a field has a member for each argument, and is written with these
members. -/
structure ArgumentRecord.IsRecord (c : DeclarationContext) (f : Field) (record : ArgumentRecord) :
    Prop where
  follows : List.Forall₂ (Member.Follows c .argument) (f.arguments.map Slot.ofInput) record.members
  text : record.source = "  export interface " ++ record.name ++ " \x7b\n" ++
    String.join (record.members.map (·.block "    ")) ++ "  \x7d\n"

/-- The resolver of a field takes a record exactly if the field has arguments, and the record is
part of the code. -/
structure FieldResolver.RecordFollows (c : DeclarationContext) (code : String) (f : Field)
    (resolver : FieldResolver) : Prop where
  field : resolver.field = f.name
  none : f.arguments = [] → resolver.arguments = none
  record : f.arguments ≠ [] → ∃ record, resolver.arguments = some record ∧ record.IsRecord c f ∧
    Occurs record.source code

/-- The records in what is declared for a type are those of the fields of an object. -/
structure ResolverItem.RecordsFollow (c : DeclarationContext) (code : String) (d : TypeDef)
    (item : ResolverItem) : Prop where
  type : item.type = d.name
  object : d.kind = .object ↔ ∃ ns, item = .object ns
  fields : ∀ ns, item = .object ns →
    List.Forall₂ (FieldResolver.RecordFollows c code) d.fields ns.fields

/-- The records that resolvers take are part of the code. -/
theorem ResolverModule.occurs_record {m : ResolverModule} {exportMark : String}
    {ns : ObjectNamespace} {resolver : FieldResolver} {record : ArgumentRecord}
    (hitem : .object ns ∈ m.items) (hresolver : resolver ∈ ns.fields)
    (taken : resolver.arguments = some record) :
    Occurs record.source (String.intercalate "\n\n" (m.sources exportMark)) := by
  have behind : Occurs record.source (resolver.source m.names m.contextDefault ns) := by
    rw [FieldResolver.source, taken]
    exact (Occurs.refl _).append_left _
  refine Occurs.trans ?_ (occurs_item hitem)
  exact behind.trans (ns.occurs_fieldSource hresolver)

section Resolvers

variable {s : Schema} {settings : Settings}

theorem isRecord_argumentRecord (name : String) (f : Field) :
    ((resolverContext s settings).argumentRecord name f).IsRecord (ownContext s settings) f := by
  constructor
  · exact (ownContext s settings).forall₂_inputMembers .argument f.arguments
  · exact ArgumentRecord.source_eq _

theorem recordFollows_fieldResolver {code : String} (f : Field) (scope : Registry)
    (occurs : ∀ record, ((resolverContext s settings).fieldResolver f scope).1.arguments =
      some record → Occurs record.source code) :
    FieldResolver.RecordFollows (ownContext s settings) code f
      ((resolverContext s settings).fieldResolver f scope).1 := by
  have arguments : ((resolverContext s settings).fieldResolver f scope).1.arguments =
    ((resolverContext s settings).claimArguments f
      (scope.claim (pascalCase f.name ++ "Resolver")).2).1 := rfl
  rw [ResolverContext.claimArguments] at arguments
  constructor
  · rfl
  · intro empty
    simp [arguments, empty]
  · intro given
    have some? : f.arguments.isEmpty = false := by simpa using given
    simp only [some?, Bool.false_eq_true, ↓reduceIte] at arguments
    exact ⟨_, arguments, isRecord_argumentRecord _ f, occurs _ arguments⟩

/-- The names of records are claimed one after the other; what holds of the record of each field is
the same for all names. -/
theorem forall₂_recordFollows {code : String} (fields : List Field) (scope : Registry)
    (occurs : ∀ resolver ∈ (resolverContext s settings).fieldResolvers fields scope,
      ∀ record, resolver.arguments = some record → Occurs record.source code) :
    List.Forall₂ (FieldResolver.RecordFollows (ownContext s settings) code) fields
      ((resolverContext s settings).fieldResolvers fields scope) := by
  induction fields generalizing scope with
  | nil => exact .nil
  | cons f rest ih =>
    refine .cons (recordFollows_fieldResolver f scope (occurs _ List.mem_cons_self)) (ih _ ?_)
    intro resolver later
    exact occurs resolver (List.mem_cons_of_mem _ later)

theorem recordsFollow_of_item? {code : String} {d : TypeDef} {name : String} {r : Registry}
    {item : ResolverItem} (made : (resolverContext s settings).item? d name r = some item)
    (occurs : ∀ ns, item = .object ns → ∀ resolver ∈ ns.fields,
      ∀ record, resolver.arguments = some record → Occurs record.source code) :
    item.RecordsFollow (ownContext s settings) code d := by
  refine ⟨type_of_item? made, ?_, ?_⟩
  · cases ResolverContext.makes_of_item? made with
    | object kind => simp [kind]
    | abstract kind => rcases kind with kind | kind <;> simp [kind]
    | scalar kind => simp [kind]
  · rintro ns rfl
    rw [ResolverContext.objectNamespace_of_item? made] at occurs ⊢
    exact forall₂_recordFollows d.fields _ (occurs _ rfl)

theorem forall₂_recordsFollow :
    List.Forall₂ (ResolverItem.RecordsFollow (ownContext s settings)
        (String.intercalate "\n\n" ((resolverOutput s settings).sources settings.exportMark)))
      ((resolverTypes s).filter ResolverContext.hasItem) (resolverOutput s settings).items := by
  apply forall₂_resolverItems
  intro d _ item hitem r claimed found
  refine recordsFollow_of_item? found ?_
  rintro ns rfl resolver hresolver record taken
  exact ResolverModule.occurs_record hitem hresolver taken

end Resolvers

/-! ### The result -/

namespace Generator

/-- Under a configuration that is accepted, all records in either kind of code follow the law. The
types are made of declarations, one for each type that is declared, introspection types included,
and one for each field that takes arguments; among these the records are as they have to be.
Resolvers are always generated, and among what is declared for them the records are those of
arguments. -/
theorem run_records {options : Options} {settings : Settings}
    (h : options.resolve = .ok settings) (s : Schema) (documents : List Operation.Document) :
    (∀ types, run s documents options .types = .ok types → ∃ admits own reflected,
      admittedIntrospection s documents settings = .ok admits ∧
      declarations s documents settings = .ok (own ++ reflected) ∧
      types.content =
        String.intercalate "\n\n" ((own ++ reflected).map (·.source settings.exportMark)) ∧
      List.Forall₂ (Origin.RecordFollows (ownContext s settings))
        (origins (ownTypes s settings)) own ∧
      List.Forall₂ (Origin.RecordFollows (reflectContext s settings))
        (origins (reflectTypes settings admits)) reflected) ∧
    ∃ m resolvers, resolverModule s settings = .ok m ∧
      run s documents options .resolvers = .ok resolvers ∧
      resolvers.content = String.intercalate "\n\n" (m.sources settings.exportMark) ∧
      List.Forall₂ (ResolverItem.RecordsFollow (ownContext s settings) resolvers.content)
        ((resolverTypes s).filter ResolverContext.hasItem) m.items := by
  constructor
  · intro types generated
    obtain ⟨ds, made, content⟩ := content_eq_of_runTypes h generated
    obtain ⟨admits, admitted, rfl⟩ := declarations_eq_ok s settings made
    have follow : ∀ (c : DeclarationContext) declared r,
        List.Forall₂ (Origin.RecordFollows c) (origins declared) (c.declareAll declared r).1 := by
      intro c declared r
      exact (c.forall₂_declareAll declared r).imp fun _ _ made => made.recordFollows
    exact ⟨admits, _, _, admitted, made, content, follow _ _ _, follow _ _ _⟩
  · exact ⟨resolverOutput s settings, _, resolverModule_eq s settings,
      runResolvers_eq s (Options.settings_eq_ok_iff.mpr h), rfl, forall₂_recordsFollow⟩

/-- Arguments have to be there, members and arrays are read-only. The library has a record of each
kind but that of an interface; the introspection types are declared too. -/
theorem run_records_library :
    let options : Options :=
      { avoidOptionals := { argument := true }, immutableTypes := true
        includeIntrospectionTypes := true }
    ∃ settings, options.resolve = .ok settings ∧
      (∀ types, run Schema.library [] options .types = .ok types → ∃ admits own reflected,
        admittedIntrospection Schema.library [] settings = .ok admits ∧
        declarations Schema.library [] settings = .ok (own ++ reflected) ∧
        types.content =
          String.intercalate "\n\n" ((own ++ reflected).map (·.source settings.exportMark)) ∧
        List.Forall₂ (Origin.RecordFollows (ownContext Schema.library settings))
          (origins (ownTypes Schema.library settings)) own ∧
        List.Forall₂ (Origin.RecordFollows (reflectContext Schema.library settings))
          (origins (reflectTypes settings admits)) reflected) ∧
      ∃ m resolvers, resolverModule Schema.library settings = .ok m ∧
        run Schema.library [] options .resolvers = .ok resolvers ∧
        resolvers.content = String.intercalate "\n\n" (m.sources settings.exportMark) ∧
        List.Forall₂
          (ResolverItem.RecordsFollow (ownContext Schema.library settings) resolvers.content)
          ((resolverTypes Schema.library).filter ResolverContext.hasItem) m.items := by
  intro options
  let settings : Settings :=
    { plainSettings with
      avoidOptionals := { argument := true }, immutableTypes := true
      includeIntrospectionTypes := true }
  have resolved : options.resolve = .ok settings := by
    dsimp only [options]
    rfl
  exact ⟨settings, resolved, run_records resolved Schema.library []⟩

end Generator

end GraphTypes
