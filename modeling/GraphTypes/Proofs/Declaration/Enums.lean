import GraphTypes.Proofs.Declaration.Completeness
import GraphTypes.Proofs.Declaration.EnumsOnly
import GraphTypes.Proofs.Declaration.Uniqueness
import GraphTypes.Proofs.Name.History
import GraphTypes.Proofs.TypeScript.Literal

/-!
# Enums keep their values

Whatever style is asked for, the string literals in the declaration of an enum are the names of its
values, in order and as they are. The members that stand for values have identifiers of their own.
These are spelled by a convention, which can make one of several names, and then each gets the least
number that sets it apart from those before it (`MembersFollow`).
-/

namespace GraphTypes

open Config Name Sdl TypeScript

/-- The values of an enum. -/
def Sdl.TypeDef.values (d : TypeDef) : List EnumValue :=
  match d.shape with
  | .enum values => values
  | _ => []

theorem Sdl.TypeDef.shape_of_enum {d : TypeDef} (enum : d.kind = .enum) :
    d.shape = .enum d.values := by
  rw [kind] at enum
  rw [values]
  cases hshape : d.shape <;> rw [hshape] at enum <;> cases enum

/-- The values of enums have GraphQL names. -/
def Schema.HasValueNames (s : Schema) : Prop := ∀ d ∈ s.types, ∀ v ∈ d.values, IsName v.name

instance (s : Schema) : Decidable s.HasValueNames :=
  inferInstanceAs (Decidable (∀ d ∈ s.types, ∀ v ∈ d.values, IsName v.name))

/-! ### Members -/

/-- There is a member for each value, in order. Its identifier is the spelling of its value, or the
spelling with the least number that makes it unlike the identifiers before it. -/
structure MembersFollow (naming : Convention) (values : List EnumValue)
    (members : List EnumMember) : Prop where
  values : List.Forall₂ (fun v m => m.value = v.name ∧ m.description = v.description) values members
  distinct : (members.map (·.identifier)).Nodup
  granted : ∀ before m after, members = before ++ m :: after → ∀ name,
    Registry.Grants (· ∈ before.map (·.identifier)) (naming.apply m.value) name ↔
      name = m.identifier
  named : ∀ m ∈ members, IsName m.identifier

/-- The members for values, whose identifiers are claimed on top of the names in use. -/
def membersFrom (naming : Convention) (values : List EnumValue) (r : Registry) : List EnumMember :=
  (values.zip (r.claimAll (values.map fun v => naming.apply v.name)).1).map fun entry =>
    { description := entry.1.description, identifier := entry.2, value := entry.1.name }

section Members

variable (naming : Convention) (values : List EnumValue) (r : Registry)

theorem membersFrom_cons (v : EnumValue) (rest : List EnumValue) :
    membersFrom naming (v :: rest) r =
      { description := v.description, identifier := r.available (naming.apply v.name)
        value := v.name } :: membersFrom naming rest (r.claim (naming.apply v.name)).2 := rfl

theorem forall₂_membersFrom : List.Forall₂
    (fun v m => m.value = v.name ∧ m.description = v.description) values
    (membersFrom naming values r) := by
  induction values generalizing r with
  | nil => exact .nil
  | cons v rest ih => exact .cons ⟨rfl, rfl⟩ (ih _)

theorem map_identifier_membersFrom : (membersFrom naming values r).map (·.identifier) =
    (r.claimAll (values.map fun v => naming.apply v.name)).1 := by
  induction values generalizing r with
  | nil => rfl
  | cons v rest ih =>
    rw [membersFrom_cons, List.map_cons, ih]
    rfl

/-- Each member is claimed when the names in use are those from before and those of the members in
front of it. -/
theorem granted_membersFrom {before after : List EnumMember} {m : EnumMember}
    (h : membersFrom naming values r = before ++ m :: after) (name : String) :
    Registry.Grants (fun used => used ∈ before.map (·.identifier) ∨ used ∈ r.taken)
      (naming.apply m.value) name ↔ name = m.identifier := by
  induction values generalizing r before with
  | nil => simp [membersFrom] at h
  | cons v rest ih =>
    rw [membersFrom_cons] at h
    cases before with
    | nil =>
      obtain ⟨rfl, -⟩ := List.cons.inj h
      have inUse : (fun used => used ∈ ([] : List EnumMember).map (·.identifier) ∨ used ∈ r.taken) =
          (· ∈ r.taken) := by simp
      rw [inUse]
      exact Registry.grants_iff
    | cons first between =>
      obtain ⟨rfl, others⟩ := List.cons.inj h
      rw [← ih _ others]
      simp only [Registry.mem_taken_claim, List.map_cons, List.mem_cons, or_assoc,
        or_left_comm]

end Members

theorem membersFollow_enumMembers (c : DeclarationContext) {values : List EnumValue}
    (named : ∀ v ∈ values, IsName v.name) :
    MembersFollow c.settings.enumValueNaming values (c.enumMembers values) := by
  have made : c.enumMembers values =
    membersFrom c.settings.enumValueNaming values Registry.empty := rfl
  rw [made]
  have identifiers :=
    map_identifier_membersFrom c.settings.enumValueNaming values Registry.empty
  constructor
  case values => exact forall₂_membersFrom _ _ _
  case distinct =>
    rw [identifiers]
    exact (Registry.claims_claimAll _ _).nodup
  case granted =>
    intro before m after h name
    rw [← granted_membersFrom _ _ _ h]
    simp [Registry.empty]
  case named =>
    intro m hm
    have claimed : m.identifier ∈ _ := identifiers ▸ List.mem_map_of_mem hm
    obtain ⟨base, hbase, r, -, identifier⟩ := Registry.mem_claimAll claimed
    obtain ⟨v, hv, rfl⟩ := List.mem_map.mp hbase
    rw [identifier]
    exact isName_available r (Convention.isName_apply (named v hv) _)

/-! ### Texts -/

theorem Name.IsName.isPlain {name : String} (h : IsName name) : IsPlain name.toList := by
  intro c hc
  have inName := h.2 c hc
  constructor
  · rintro rfl
    exact absurd inName (by decide)
  · rintro rfl
    exact absurd inName (by decide)

theorem Name.IsName.quote_not_mem {name : String} (h : IsName name) : '"' ∉ name.toList :=
  fun quote => (h.isPlain '"' quote).1 rfl

/-- A member of an enum as it stands in the declaration. -/
def TypeScript.EnumMember.block (m : EnumMember) : String :=
  docComment "  " m.description ++ "  " ++ m.identifier ++ " = " ++ literal m.value ++ ",\n"

theorem indented_enumMembers (members : List EnumMember) :
    indented "  " (members.flatMap EnumMember.lines) =
      String.join (members.map EnumMember.block) := by
  rw [indented_flatMap]
  refine congrArg String.join (List.map_congr_left fun m _ => ?_)
  rw [EnumMember.lines, indented_comment, EnumMember.block]
  simp [literal, ← String.toList_inj]

theorem stringLiterals_blocks {members : List EnumMember}
    (h : ∀ m ∈ members, IsName m.identifier ∧ IsName m.value) (rest : String) :
    stringLiterals (String.join (members.map EnumMember.block) ++ rest) =
      members.map (·.value) ++ stringLiterals rest := by
  induction members with
  | nil => rw [List.map_nil, String.join_nil, String.empty_append, List.map_nil, List.nil_append]
  | cons m others ih =>
    obtain ⟨⟨identifier, value⟩, h⟩ := List.forall_mem_cons.mp h
    have blanks : IsPlain "  ".toList := by simp [IsPlain]
    have equals : IsPlain " = ".toList := by simp [IsPlain]
    have comma : IsPlain ",\n".toList := by simp [IsPlain]
    simp only [List.map_cons, String.join_cons, EnumMember.block, String.append_assoc]
    rw [stringLiterals_docComment (by simp), stringLiterals_plain blanks,
      stringLiterals_plain identifier.isPlain, stringLiterals_plain equals,
      stringLiterals_literal value.quote_not_mem, stringLiterals_plain comma, ih h,
      List.cons_append]

theorem isPlain_exportMark (settings : Settings) : IsPlain settings.exportMark.toList := by
  rw [Settings.exportMark]
  split <;> simp [IsPlain]

section Texts

variable {e : Declaration} {exportMark : String}

theorem source_union {names : List String} (body : e.body = .literals names) :
    e.source exportMark = docComment "" e.description ++ exportMark ++ "type " ++ e.identifier ++
      " = " ++ alternatives (names.map literal) ++ ";" := by
  rw [Declaration.source, body, Declaration.bodyText]
  simp only [String.append_assoc]

theorem source_enum {const : Bool} {members : List EnumMember}
    (body : e.body = .enum const members) :
    e.source exportMark = docComment "" e.description ++ exportMark ++
      (if const then "const enum " else "enum ") ++ e.identifier ++ " \x7b\n" ++
        String.join (members.map EnumMember.block) ++ "\x7d" := by
  rw [Declaration.source, body, Declaration.bodyText, indented_enumMembers]
  simp only [String.append_assoc]

variable (identifier : IsName e.identifier) (exported : IsPlain exportMark.toList)

include identifier exported

/-- The head of a declaration holds no literals. -/
theorem stringLiterals_head {keyword equals : String} (hkeyword : IsPlain keyword.toList)
    (hequals : IsPlain equals.toList) (body : String) :
    stringLiterals (docComment "" e.description ++ exportMark ++ keyword ++ e.identifier ++ equals ++
      body) = stringLiterals body := by
  simp only [String.append_assoc]
  rw [stringLiterals_docComment (by simp), stringLiterals_plain exported,
    stringLiterals_plain hkeyword, stringLiterals_plain identifier.isPlain,
    stringLiterals_plain hequals]

theorem stringLiterals_union {names : List String} (body : e.body = .literals names)
    (named : ∀ name ∈ names, IsName name) : stringLiterals (e.source exportMark) = names := by
  have keyword : IsPlain "type ".toList := by simp [IsPlain]
  have equals : IsPlain " = ".toList := by simp [IsPlain]
  have quotes : ∀ name ∈ names, '"' ∉ name.toList := fun name hname =>
    (named name hname).quote_not_mem
  rw [source_union body, String.append_assoc, stringLiterals_head identifier exported keyword equals,
    stringLiterals_alternatives quotes]
  exact List.append_nil names

theorem stringLiterals_enum {const : Bool} {members : List EnumMember}
    (body : e.body = .enum const members)
    (named : ∀ m ∈ members, IsName m.identifier ∧ IsName m.value) :
    stringLiterals (e.source exportMark) = members.map (·.value) := by
  have keyword : IsPlain (if const then "const enum " else "enum ").toList := by
    cases const <;> simp [IsPlain]
  have brace : IsPlain " \x7b\n".toList := by simp [IsPlain]
  rw [source_enum body, String.append_assoc, stringLiterals_head identifier exported keyword brace,
    stringLiterals_blocks named]
  exact List.append_nil _

end Texts

/-! ### Declarations of enums -/

/-- What the declaration of an enum has to be like. -/
structure Declaration.ShowsEnum (settings : Settings) (d : TypeDef) (e : Declaration) : Prop where
  name : e.name = d.name
  /-- The literals in the text, comments apart, are the names of the values. -/
  literals : stringLiterals (e.source settings.exportMark) = d.values.map (·.name)
  union : settings.enumStyle = .stringUnion → e.source settings.exportMark =
    docComment "" d.description ++ settings.exportMark ++ "type " ++ e.identifier ++ " = " ++
      alternatives ((d.values.map (·.name)).map literal) ++ ";"
  enum : settings.enumStyle ≠ .stringUnion → ∃ members,
    MembersFollow settings.enumValueNaming d.values members ∧ e.source settings.exportMark =
      docComment "" d.description ++ settings.exportMark ++
        (if settings.enumStyle = .const then "const enum " else "enum ") ++ e.identifier ++
        " \x7b\n" ++ String.join (members.map EnumMember.block) ++ "\x7d"

/-- Members have the names of their values. -/
theorem MembersFollow.map_value {naming : Convention} {values : List EnumValue}
    {members : List EnumMember} (h : MembersFollow naming values members) :
    members.map (·.value) = values.map (·.name) := by
  have aligned := h.values
  clear h
  induction aligned with
  | nil => rfl
  | cons same _ ih => rw [List.map_cons, List.map_cons, same.1, ih]

section Declared

variable {c : DeclarationContext} {d : TypeDef}

theorem body_of_enum (enum : d.kind = .enum) :
    (c.declare d).body = match c.settings.enumStyle with
      | .stringUnion => .literals (d.values.map (·.name))
      | .native => .enum false (c.enumMembers d.values)
      | .const => .enum true (c.enumMembers d.values) := by
  show c.body d = _
  cases style : c.settings.enumStyle <;>
    simp only [DeclarationContext.body, Sdl.TypeDef.shape_of_enum enum, style]

theorem showsEnum_declare (enum : d.kind = .enum) (identifier : IsName (c.declare d).identifier)
    (named : ∀ v ∈ d.values, IsName v.name) : (c.declare d).ShowsEnum c.settings d := by
  have body := body_of_enum (c := c) enum
  have exported := isPlain_exportMark c.settings
  have follow := membersFollow_enumMembers c named
  have names : ∀ name ∈ d.values.map (·.name), IsName name := List.forall_mem_map.mpr named
  have members : ∀ m ∈ c.enumMembers d.values, IsName m.identifier ∧ IsName m.value := by
    intro m hm
    refine ⟨follow.named m hm, names _ ?_⟩
    rw [← follow.map_value]
    exact List.mem_map_of_mem hm
  -- The two styles that have members differ in one word.
  have enumeration : ∀ const, (c.declare d).body = .enum const (c.enumMembers d.values) →
      stringLiterals ((c.declare d).source c.settings.exportMark) = d.values.map (·.name) := by
    intro const body
    rw [stringLiterals_enum identifier exported body members, follow.map_value]
  cases style : c.settings.enumStyle with
  | stringUnion =>
    rw [style] at body
    refine ⟨rfl, stringLiterals_union identifier exported body names, fun _ => source_union body, ?_⟩
    exact fun other => absurd style other
  | native =>
    rw [style] at body
    refine ⟨rfl, enumeration _ body, fun union => ?_, fun _ => ⟨_, follow, ?_⟩⟩
    · rw [style] at union
      cases union
    · rw [source_enum body, style]
      rfl
  | const =>
    rw [style] at body
    refine ⟨rfl, enumeration _ body, fun union => ?_, fun _ => ⟨_, follow, ?_⟩⟩
    · rw [style] at union
      cases union
    · rw [source_enum body, style]
      rfl

end Declared

/-! ### The result -/

theorem hasValueNames_metaSchema : Introspection.metaSchema.HasValueNames := by decide +kernel

theorem forall₂_showsEnum_declare {c : DeclarationContext} {naming : Convention} {r : Registry}
    (hnames : c.names = (TypeNames.assign naming c.schema.types r).1)
    (named : c.schema.HasNames) (values : c.schema.HasValueNames) {types : List TypeDef}
    (htypes : ∀ d ∈ types, d ∈ c.schema.types ∧ ¬ isBuiltinScalar d.name ∧ d.kind = .enum) :
    List.Forall₂ (Declaration.ShowsEnum c.settings) types (types.map c.declare) := by
  rw [List.forall₂_map_right_iff, List.forall₂_same]
  intro d hd
  obtain ⟨hmem, builtin, enum⟩ := htypes d hd
  apply showsEnum_declare enum ?_ (values d hmem)
  exact c.isName_refer hnames (fun t ht => (named t ht).1) hmem builtin

theorem ownTypes_filter (s : Schema) (settings : Settings) :
    (ownTypes s settings).filter (·.kind == .enum) = s.authored.filter (·.kind == .enum) := by
  rw [ownTypes, declaredTypes, Schema.authored, List.filter_filter, List.filter_filter]
  apply List.filter_congr
  intro d _
  cases d.kind == .enum <;> simp

theorem reflectTypes_filter (settings : Settings) (admits : String → Bool) :
    (reflectTypes settings admits).filter (·.kind == .enum) =
      (Introspection.metaSchema.types.filter (admits ·.name)).filter (·.kind == .enum) := by
  rw [reflectTypes, declaredTypes, List.filter_filter, List.filter_filter]
  apply List.filter_congr
  intro d hd
  have plain : isBuiltinScalar d.name = false := by
    simpa using not_isBuiltinScalar_of_mem_metaTypes d hd
  rw [plain]
  cases d.kind == .enum <;> simp

/-- Each enum of a schema and each introspection enum that is admitted has a declaration, in order,
and it keeps the values of the enum. -/
theorem enums_keep_values {s : Schema} {documents : List Operation.Document} {settings : Settings}
    {admits : String → Bool} (named : s.HasNames) (values : s.HasValueNames)
    (h : admittedIntrospection s documents settings = .ok admits) :
    ∃ ds, declarations s documents settings = .ok ds ∧
      List.Forall₂ (Declaration.ShowsEnum settings)
        ((s.authored ++ Introspection.metaSchema.types.filter (admits ·.name)).filter
          (·.kind == .enum))
        (ds.filter Declaration.isEnum) := by
  refine ⟨(ownDeclarations s settings).1 ++ reflectDeclarations s settings admits, ?_, ?_⟩
  · rw [declarations_eq, h]
    rfl
  · rw [List.filter_append, List.filter_append, ownDeclarations, reflectDeclarations,
      DeclarationContext.filter_declareAll, DeclarationContext.filter_declareAll, ownTypes_filter,
      reflectTypes_filter]
    apply List.rel_append
    · apply forall₂_showsEnum_declare (c := ownContext s settings) rfl named values
      intro d hd
      simp only [Schema.authored, List.mem_filter, Bool.and_eq_true, Bool.not_eq_true',
        beq_iff_eq] at hd
      obtain ⟨⟨hmem, plain, -⟩, enum⟩ := hd
      exact ⟨hmem, by simp [plain], enum⟩
    · apply forall₂_showsEnum_declare (c := reflectContext s settings) rfl hasNames_metaSchema
        hasValueNames_metaSchema
      intro d hd
      simp only [List.mem_filter, beq_iff_eq] at hd
      obtain ⟨⟨hmem, -⟩, enum⟩ := hd
      exact ⟨hmem, not_isBuiltinScalar_of_mem_metaTypes d hmem, enum⟩

/-- An enum whose values are spelled alike, and alike with a number too. -/
def Schema.palette : Schema where
  types :=
    [{ description := none, name := "Query", shape := .object [] [] },
      { description := some "the colours of /* \"A\" */"
        name := "Colour"
        shape := .enum
          [{ description := some "*/ X = \"X\"", name := "red" },
            { description := none, name := "RED" },
            { description := none, name := "red2" },
            { description := none, name := "_red" },
            { description := none, name := "Red_" }] }]
  roots := { query := some "Query" }
  faultless := by decide +kernel

theorem enums_keep_values_palette :
    let settings := { plainSettings with includeIntrospectionTypes := true, enumStyle := .const }
    Schema.palette.HasNames ∧ Schema.palette.HasValueNames ∧
      admittedIntrospection Schema.palette [] settings = .ok (fun _ => true) ∧
      ∃ ds, declarations Schema.palette [] settings = .ok ds ∧
        List.Forall₂ (Declaration.ShowsEnum settings)
          ((Schema.palette.authored ++ Introspection.metaSchema.types.filter fun _ => true).filter
            (·.kind == .enum))
          (ds.filter Declaration.isEnum) := by
  intro settings
  have named : Schema.palette.HasNames := by decide +kernel
  have values : Schema.palette.HasValueNames := by decide +kernel
  have admitted : admittedIntrospection Schema.palette [] settings = .ok (fun _ => true) := rfl
  exact ⟨named, values, admitted, enums_keep_values named values admitted⟩

/-- The identifiers of its members. -/
example : (Schema.palette.types.flatMap fun d =>
      (membersFrom .pascalCase d.values Registry.empty).map (·.identifier)) =
    ["Red", "Red2", "Red22", "_Red", "Red3"] := by decide +kernel

end GraphTypes
