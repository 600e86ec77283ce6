import GraphTypes.Proofs.Generator

/-!
# Single checks of options

What each step that checks a part of a configuration accepts, what it makes of it, and what it
reports otherwise. A convention is known by its name, with or without `change-case#` in front of it,
and a template mentions the type parameter if `T` stands in it alone.
-/

namespace GraphTypes

/-! ### Names of conventions -/

namespace Name.Convention

/-- The name of a convention. -/
def plainName : Convention → String
  | keep => "keep"
  | pascalCase => "pascalCase"
  | camelCase => "camelCase"
  | constantCase => "constantCase"
  | snakeCase => "snakeCase"
  | upperCase => "upperCase"
  | lowerCase => "lowerCase"

/-- A text names a convention by its name, with or without `change-case#` in front of it. -/
def Names (text : String) (c : Convention) : Prop :=
  text = c.plainName ∨ text = "change-case#" ++ c.plainName

theorem lookup_named_iff {name : String} {c : Convention} :
    named.lookup name = some c ↔ name = c.plainName := by
  have nodup : (named.map Prod.fst).Nodup := by decide
  rw [Dictionary.lookup_eq_some_iff_of_nodup nodup]
  cases c <;> simp [named, plainName]

/-- No name begins with what may stand in front of it, so that is taken away once only. -/
theorem withoutLead_eq_iff {text : String} (c : Convention) :
    withoutLead "change-case#".toList text.toList = c.plainName.toList ↔ Names text c := by
  have plain : ¬ "change-case#".toList <+: c.plainName.toList := by cases c <;> decide
  rw [withoutLead, Names]
  split
  · next leads =>
    obtain ⟨rest, split⟩ := List.isPrefixOf_iff_prefix.mp leads
    have longer : text ≠ c.plainName := by
      rintro rfl
      exact plain ⟨rest, split⟩
    rw [← split, List.drop_left, or_iff_right longer, ← String.toList_inj, ← split,
      String.toList_append, List.append_cancel_left_eq]
  · next leads =>
    have shorter : text ≠ "change-case#" ++ c.plainName := by
      rintro rfl
      rw [List.isPrefixOf_iff_prefix, String.toList_append] at leads
      exact leads (List.prefix_append _ _)
    rw [or_iff_left shorter, String.toList_inj]

theorem ofName?_eq_some_iff {text : String} {c : Convention} :
    ofName? text = some c ↔ Names text c := by
  rw [ofName?, lookup_named_iff, ← withoutLead_eq_iff, ← String.toList_inj, String.toList_ofList]

end Name.Convention

namespace Config

open Name (Convention)

/-! ### Mentions of the type parameter -/

/-- `T` stands somewhere in a text, with no character of an identifier next to it. -/
def Mentions (text : List Char) : Prop :=
  ∃ before after, text = before ++ 'T' :: after ∧
    (∀ c ∈ before.getLast?, ¬ inIdentifier c) ∧ ∀ c ∈ after.head?, ¬ inIdentifier c

/-- An identifier may also be going on in front of the text. -/
theorem mentionsParameterAfter_iff {inside : Bool} {text : List Char} :
    mentionsParameterAfter inside text ↔
      ∃ before after, text = before ++ 'T' :: after ∧
        (before.getLast?.map inIdentifier).getD inside = false ∧
        ∀ c ∈ after.head?, ¬ inIdentifier c := by
  induction text generalizing inside with
  | nil => simp [mentionsParameterAfter]
  | cons c rest ih =>
    rw [mentionsParameterAfter, Bool.or_eq_true, ih]
    constructor
    · rintro (here | ⟨before, after, rfl, free, next⟩)
      · refine ⟨[], rest, ?_⟩
        simpa [and_assoc, Option.any_eq_false] using here
      · refine ⟨c :: before, after, rfl, ?_, next⟩
        rw [List.getLast?_cons]
        cases h : before.getLast? <;> simpa [h] using free
    · rintro ⟨_ | ⟨d, before⟩, after, split, free, next⟩
      · cases split
        left
        simpa [Option.any_eq_false] using And.intro free next
      · cases split
        refine Or.inr ⟨before, after, rfl, ?_, next⟩
        rw [List.getLast?_cons] at free
        cases h : before.getLast? <;> simpa [h] using free

theorem mentionsParameter_iff {template : String} :
    mentionsParameter template ↔ Mentions template.toList := by
  rw [mentionsParameter, mentionsParameterAfter_iff, Mentions]
  refine exists_congr fun before => exists_congr fun after => ?_
  cases before.getLast? <;> simp

/-! ### Conventions -/

theorem convention_eq_ok_iff {name : String} {c : Convention} :
    convention name = .ok c ↔ Convention.Names name c := by
  rw [convention, ← Convention.ofName?_eq_some_iff]
  cases Convention.ofName? name <;> simp

theorem convention_eq_error_iff {name : String} {e : ConfigError} :
    convention name = .error e ↔
      (∀ c, ¬ Convention.Names name c) ∧ e = .unknownConvention name := by
  simp only [← Convention.ofName?_eq_some_iff]
  rw [convention]
  cases Convention.ofName? name <;> simp [eq_comm]

/-- The convention that a name is given for, and pascal case where none is given. -/
inductive Chosen : Option String → Convention → Prop
  | default : Chosen none .pascalCase
  | named {name : String} {c : Convention} (names : Convention.Names name c) : Chosen (some name) c

theorem conventionOrDefault_eq_ok_iff {given : Option String} {c : Convention} :
    conventionOrDefault given = .ok c ↔ Chosen given c := by
  cases given with
  | none =>
    constructor
    · rintro ⟨⟩
      exact .default
    · rintro ⟨⟩
      rfl
  | some name =>
    rw [conventionOrDefault, convention_eq_ok_iff]
    constructor
    · exact .named
    · rintro (_ | names)
      exact names

/-- A name is given that no convention has. -/
def Misnamed (given : Option String) (e : ConfigError) : Prop :=
  ∃ name ∈ given, (∀ c, ¬ Convention.Names name c) ∧ e = .unknownConvention name

theorem forall_not_misnamed {given : Option String} :
    (∀ e, ¬ Misnamed given e) ↔ ∀ name ∈ given, ∃ c, Convention.Names name c := by
  constructor
  · intro h name hname
    by_contra unnamed
    exact h _ ⟨name, hname, not_exists.mp unnamed, rfl⟩
  · rintro h e ⟨name, hname, unnamed, -⟩
    obtain ⟨c, names⟩ := h name hname
    exact unnamed c names

theorem conventionOrDefault_eq_error_iff {given : Option String} {e : ConfigError} :
    conventionOrDefault given = .error e ↔ Misnamed given e := by
  cases given with
  | none => simp [conventionOrDefault, Misnamed]
  | some name => simp [conventionOrDefault, Misnamed, convention_eq_error_iff]

/-- The name that is given for the convention of types. -/
def Options.typeNames (o : Options) : Option String :=
  match o.namingConvention with
  | none => none
  | some (.uniform name) => name
  | some (.perKind typeNames _) => typeNames

/-- The name that is given for the convention of enum values. -/
def Options.enumValues (o : Options) : Option String :=
  match o.namingConvention with
  | none => none
  | some (.uniform name) => name
  | some (.perKind _ enumValues) => enumValues

/-- A name that is given for both conventions is looked up once; the second time it would be found
again. -/
theorem conventions_eq (o : Options) :
    conventions o.namingConvention = do
      let typeNaming ← conventionOrDefault o.typeNames
      let enumValueNaming ← conventionOrDefault o.enumValues
      return (typeNaming, enumValueNaming) := by
  rw [Options.typeNames, Options.enumValues]
  cases o.namingConvention with
  | none => rfl
  | some given =>
    cases given with
    | uniform name =>
      simp only [conventions, conventionOrDefault]
      cases convention name <;> rfl
    | perKind typeNames enumValues => rfl

theorem conventions_eq_ok_iff {o : Options} {typeNaming enumValueNaming : Convention} :
    conventions o.namingConvention = .ok (typeNaming, enumValueNaming) ↔
      Chosen o.typeNames typeNaming ∧ Chosen o.enumValues enumValueNaming := by
  rw [conventions_eq, ← conventionOrDefault_eq_ok_iff, ← conventionOrDefault_eq_ok_iff]
  constructor
  · intro h
    obtain ⟨_, htype, h⟩ := exists_of_bind_eq_ok h
    obtain ⟨_, hvalue, h⟩ := exists_of_bind_eq_ok h
    cases h
    exact ⟨htype, hvalue⟩
  · rintro ⟨htype, hvalue⟩
    rw [htype, hvalue]
    rfl

/-! ### Enums and `Maybe` -/

theorem enumStyle_eq_ok_iff {constEnums enumsAsTypes : Bool} {style : EnumStyle} :
    enumStyle constEnums enumsAsTypes = .ok style ↔
      (style = .const ↔ constEnums) ∧ (style = .stringUnion ↔ enumsAsTypes) := by
  cases constEnums <;> cases enumsAsTypes <;> cases style <;> simp [enumStyle]

theorem enumStyle_eq_error_iff {constEnums enumsAsTypes : Bool} {e : ConfigError} :
    enumStyle constEnums enumsAsTypes = .error e ↔
      constEnums ∧ enumsAsTypes ∧ e = .enumStylesCombined := by
  cases constEnums <;> cases enumsAsTypes <;> simp [enumStyle, eq_comm]

theorem maybeTemplate_eq_ok_iff {given : Option String} {template : String} :
    maybeTemplate given = .ok template ↔
      template = given.getD "T | null" ∧ Mentions (given.getD "T | null").toList := by
  rw [maybeTemplate, ← mentionsParameter_iff]
  split
  · next mentioned => simp [mentioned, eq_comm]
  · next unmentioned => simp [unmentioned]

theorem maybeTemplate_eq_error_iff {given : Option String} {e : ConfigError} :
    maybeTemplate given = .error e ↔
      ¬ Mentions (given.getD "T | null").toList ∧ e = .parameterUnused (given.getD "T | null") := by
  rw [maybeTemplate, ← mentionsParameter_iff]
  split
  · next mentioned => simp [mentioned]
  · next unmentioned => simp [unmentioned, eq_comm]

theorem selectsEnums_eq_ok_iff {given : Option String} {only : Bool} :
    selectsEnums given = .ok only ↔ given = if only then some "enums" else none := by
  rw [selectsEnums.eq_def]
  split <;> cases only <;> simp_all

theorem selectsEnums_eq_error_iff {given : Option String} {e : ConfigError} :
    selectsEnums given = .error e ↔
      ∃ value ∈ given, value ≠ "enums" ∧ e = .unknownSelection value := by
  rw [selectsEnums.eq_def]
  split <;> simp_all [eq_comm]

/-! ### References -/

/-- A text is given that is no reference, for a cause that is reported. -/
def Misread (given : Option String) (report : ReferenceError → ConfigError) (e : ConfigError) :
    Prop :=
  ∃ text ∈ given, ∃ cause, Reference.parse text = .error cause ∧ e = report cause

theorem forall_not_misread {given : Option String} {report : ReferenceError → ConfigError} :
    (∀ e, ¬ Misread given report e) ↔
      ∀ text ∈ given, ∃ reference, Reference.parse text = .ok reference := by
  constructor
  · intro h text htext
    cases hread : Reference.parse text with
    | ok reference => exact ⟨reference, rfl⟩
    | error cause => exact absurd ⟨text, htext, cause, hread, rfl⟩ (h _)
  · rintro h e ⟨text, htext, cause, failed, -⟩
    obtain ⟨reference, hread⟩ := h text htext
    rw [failed] at hread
    cases hread

theorem readMapper_eq_ok_iff {typeName text : String} {reference : Reference} :
    readMapper typeName text = .ok reference ↔ Reference.parse text = .ok reference := by
  rw [readMapper]
  cases Reference.parse text <;> simp [Except.mapError]

theorem checked_iff {given : List (String × String)} {made : List (String × Reference)} :
    Dictionary.Checked readMapper given made ↔
      Dictionary.Checked (fun _ => Reference.parse) given made := by
  simp only [Dictionary.Checked, readMapper_eq_ok_iff]

theorem readMapper_eq_error_iff {typeName text : String} {e : ConfigError} :
    readMapper typeName text = .error e ↔ Misread (some text) (.mapper typeName) e := by
  rw [readMapper, mapError_eq_error_iff]
  simp [Misread]

theorem readReference_eq_ok_iff {given : Option String} {read : Option Reference} :
    readReference given = .ok read ↔
      Option.Rel (fun text reference => Reference.parse text = .ok reference) given read := by
  cases given with
  | none =>
    constructor
    · rintro ⟨⟩
      exact .none
    · rintro ⟨⟩
      rfl
  | some text =>
    rw [readReference]
    constructor
    · intro h
      cases hread : Reference.parse text with
      | ok reference =>
        rw [hread] at h
        cases h
        exact .some hread
      | error cause =>
        rw [hread] at h
        cases h
    · rintro ⟨hread⟩
      rw [hread]
      rfl

theorem readReference_eq_error_iff {given : Option String} {e : ConfigError} :
    readReference given = .error e ↔ Misread given .reference e := by
  cases given with
  | none => simp [readReference, Misread]
  | some text =>
    rw [readReference]
    refine map_eq_error_iff.trans (mapError_eq_error_iff.trans ?_)
    simp [Misread]

end Config

end GraphTypes
