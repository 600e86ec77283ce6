import GraphTypes.Proofs.Generator

/-!
# Asking for enums alone leaves out everything else

A configuration can ask for enums alone. The declarations are then made from fewer types, and none
of the identifiers that argument records would have had is claimed. Still no enum is declared
differently: what an enum is declared under was settled before, and its members have names of their
own. So the output is what it would have been, less all that is no enum (`declareAll_filter`).
-/

namespace GraphTypes

open Config Name Sdl

/-- Whether a declaration is that of an enum. -/
def Declaration.isEnum (d : Declaration) : Bool := d.kind == .type .enum

/-! ### Declarations of several types -/

namespace DeclarationContext

theorem fieldsWithArguments_of_enum {d : TypeDef} (enum : d.kind = .enum) :
    fieldsWithArguments d = [] := by
  rw [fieldsWithArguments, TypeDef.fields_of_enum enum]
  rfl

variable (c : DeclarationContext)

/-- Argument records are declared for fields, never for an enum. -/
theorem filter_argumentRecords (d : TypeDef) (r : Registry) :
    (c.argumentRecords d r).1.filter Declaration.isEnum = [] := by
  rw [List.filter_eq_nil_iff]
  intro e he
  obtain ⟨kind, -⟩ := exists_of_mem_argumentRecords he
  simp [Declaration.isEnum, kind]

theorem isEnum_declare (d : TypeDef) : (c.declare d).isEnum = (d.kind == .enum) := by
  simp [Declaration.isEnum, declare]

/-- The enums among the declarations are those of the enums among the types. -/
theorem filter_declareAll (types : List TypeDef) (r : Registry) :
    (c.declareAll types r).1.filter Declaration.isEnum =
      (types.filter (·.kind == .enum)).map c.declare := by
  induction types generalizing r with
  | nil => rfl
  | cons d rest ih =>
    have all : (c.declareAll (d :: rest) r).1 = c.declare d :: ((c.argumentRecords d r).1 ++
        (c.declareAll rest (c.argumentRecords d r).2).1) := rfl
    rw [all, List.filter_cons, List.filter_cons, isEnum_declare, List.filter_append,
      filter_argumentRecords, List.nil_append, ih]
    split <;> rfl

theorem declareAll_of_enums {types : List TypeDef} (enums : ∀ d ∈ types, d.kind = .enum)
    (r : Registry) : (c.declareAll types r).1 = types.map c.declare := by
  induction types generalizing r with
  | nil => rfl
  | cons d rest ih =>
    obtain ⟨enum, enums⟩ := List.forall_mem_cons.mp enums
    have none : (c.argumentRecords d r).1 = [] := by
      simp [argumentRecords, fieldsWithArguments_of_enum enum, Registry.claimAll]
    have all : (c.declareAll (d :: rest) r).1 = c.declare d :: ((c.argumentRecords d r).1 ++
        (c.declareAll rest (c.argumentRecords d r).2).1) := rfl
    rw [all, none, List.nil_append, ih enums, List.map_cons]

/-- The enums among several types are declared as they are among all of these, whatever names are in
use. -/
theorem declareAll_filter {c c' : DeclarationContext} {types : List TypeDef}
    (alike : ∀ d ∈ types, d.kind = .enum → c'.declare d = c.declare d) (r r' : Registry) :
    (c'.declareAll (types.filter (·.kind == .enum)) r').1 =
      (c.declareAll types r).1.filter Declaration.isEnum := by
  have enums : ∀ d ∈ types.filter (·.kind == .enum), d ∈ types ∧ d.kind = .enum := by
    intro d hd
    simpa using hd
  rw [filter_declareAll, declareAll_of_enums c' fun d hd => (enums d hd).2]
  exact List.map_congr_left fun d hd => alike d (enums d hd).1 (enums d hd).2

end DeclarationContext

/-! ### Declarations of a schema -/

section Output

variable {s : Schema} {settings : Settings} (everything : settings.enumsOnly = false)

include everything

theorem declaredTypes_enumsOnly (admits : String → Bool) :
    declaredTypes { settings with enumsOnly := true } admits s =
      (declaredTypes settings admits s).filter (·.kind == .enum) := by
  simp only [declaredTypes, everything, List.filter_filter]
  apply List.filter_congr
  intro d _
  simp [Bool.and_comm]

theorem ownDeclarations_enumsOnly :
    (ownDeclarations s { settings with enumsOnly := true }).1 =
      (ownDeclarations s settings).1.filter Declaration.isEnum := by
  rw [ownDeclarations, ownDeclarations, ownTypes, declaredTypes_enumsOnly everything]
  apply DeclarationContext.declareAll_filter
  intro d _ _
  rfl

theorem reflectDeclarations_enumsOnly (admits : String → Bool) :
    reflectDeclarations s { settings with enumsOnly := true } admits =
      (reflectDeclarations s settings admits).filter Declaration.isEnum := by
  rw [reflectDeclarations, reflectDeclarations, reflectTypes, declaredTypes_enumsOnly everything]
  apply DeclarationContext.declareAll_filter
  intro d _ _
  rfl

/-- With and without the request for enums alone the same enums are declared in the same way, or
nothing can be declared, for the same reason. -/
theorem declarations_enumsOnly (documents : List Operation.Document) :
    declarations s documents { settings with enumsOnly := true } =
      (declarations s documents settings).map (List.filter Declaration.isEnum) := by
  -- Which introspection types are admitted is settled without looking at the request.
  have admitted : admittedIntrospection s documents { settings with enumsOnly := true } =
      admittedIntrospection s documents settings := rfl
  rw [declarations_eq, declarations_eq, admitted]
  cases admittedIntrospection s documents settings with
  | error e => rfl
  | ok admits =>
    simp only [Except.map, ownDeclarations_enumsOnly everything,
      reflectDeclarations_enumsOnly everything, List.filter_append]

end Output

/-! ### From options to texts -/

/-- A request for enums alone is granted or refused as one for everything would be, and makes no
other difference to the settings. -/
theorem resolve_generateOnly (options : Options) :
    (∃ cause, { options with generateOnly := none }.resolve = .error cause ∧
      { options with generateOnly := some "enums" }.resolve = .error cause) ∨
    ∃ settings, { options with generateOnly := none }.resolve = .ok settings ∧
      settings.enumsOnly = false ∧
      { options with generateOnly := some "enums" }.resolve =
        .ok { settings with enumsOnly := true } := by
  simp only [Options.resolve]
  cases conventions options.namingConvention with
  | error cause => exact Or.inl ⟨cause, rfl, rfl⟩
  | ok naming =>
    cases enumStyle options.constEnums options.enumsAsTypes with
    | error cause => exact Or.inl ⟨cause, rfl, rfl⟩
    | ok style =>
      cases maybeTemplate options.maybeValue with
      | error cause => exact Or.inl ⟨cause, rfl, rfl⟩
      | ok template =>
        cases options.mappers.traverse readMapper with
        | error cause => exact Or.inl ⟨cause, rfl, rfl⟩
        | ok mappers =>
          cases readReference options.defaultMapper with
          | error cause => exact Or.inl ⟨cause, rfl, rfl⟩
          | ok defaultMapper =>
            cases readReference options.contextType with
            | error cause => exact Or.inl ⟨cause, rfl, rfl⟩
            | ok contextType => exact Or.inr ⟨_, rfl, rfl, rfl⟩

/-- The declarations that options lead to, each with its text. -/
def declaredUnder (s : Schema) (documents : List Operation.Document) (options : Options) :
    Result (List (Declaration × String)) := do
  let settings ← options.settings
  let ds ← (declarations s documents settings).mapError Error.schema
  return ds.map fun d => (d, d.source settings.exportMark)

section Options

variable {s : Schema} {documents : List Operation.Document} {options : Options}

theorem declaredUnder_eq {settings : Settings} (h : options.resolve = .ok settings) :
    declaredUnder s documents options =
      ((declarations s documents settings).mapError Error.schema).map
        (List.map fun d => (d, d.source settings.exportMark)) := by
  rw [declaredUnder, Options.settings, h]
  rfl

theorem declaredUnder_eq_error {cause : ConfigError} (h : options.resolve = .error cause) :
    declaredUnder s documents options = .error (.config cause) := by
  rw [declaredUnder, Options.settings, h]
  rfl

/-- The types that are generated are the texts of the declarations. -/
theorem runTypes_eq_declaredUnder {settings : Settings} (h : options.resolve = .ok settings) :
    Generator.runTypes s documents options = (declaredUnder s documents options).map fun entries =>
      { preamble := if settings.enumsOnly then [] else [settings.maybeDeclaration]
        content := String.intercalate "\n\n" (entries.map (·.2)) } := by
  rw [declaredUnder_eq h, Generator.runTypes, Options.settings, h]
  show ((declarations s documents settings).mapError Error.schema).bind _ = _
  cases declarations s documents settings with
  | error e => rfl
  | ok ds =>
    simp only [Except.mapError, Except.map, List.map_map]
    rfl

/-- What keeps types from being generated keeps declarations from being made. -/
theorem runTypes_eq_error_iff {e : Error} :
    Generator.runTypes s documents options = .error e ↔
      declaredUnder s documents options = .error e := by
  cases accepted : options.resolve with
  | ok settings => rw [runTypes_eq_declaredUnder accepted, map_eq_error_iff]
  | error cause =>
    have wrong : options.settings = .error (.config cause) := by
      rw [Options.settings, accepted]
      rfl
    simp [Generator.runTypes, declaredUnder, wrong, bind_eq_error_iff]

/-- Both runs of the checks come out alike, and then both runs over the schema do. -/
theorem declaredUnder_generateOnly :
    declaredUnder s documents { options with generateOnly := some "enums" } =
      (declaredUnder s documents { options with generateOnly := none }).map
        (List.filter (·.1.isEnum)) := by
  rcases resolve_generateOnly options with
    ⟨cause, wrong, wrong'⟩ | ⟨settings, accepted, everything, accepted'⟩
  · rw [declaredUnder_eq_error wrong, declaredUnder_eq_error wrong']
    rfl
  · rw [declaredUnder_eq accepted, declaredUnder_eq accepted', declarations_enumsOnly everything]
    cases declarations s documents settings with
    | error e => rfl
    | ok ds =>
      show Except.ok _ = Except.ok _
      rw [List.filter_map]
      rfl

/-- The code for enums alone is made of their declarations, and does not even declare `Maybe`. -/
theorem runTypes_generateOnly :
    Generator.runTypes s documents { options with generateOnly := some "enums" } =
      (declaredUnder s documents { options with generateOnly := none }).map fun entries =>
        { content := String.intercalate "\n\n" ((entries.filter (·.1.isEnum)).map (·.2)) } := by
  rcases resolve_generateOnly options with
    ⟨cause, wrong, wrong'⟩ | ⟨settings, accepted, everything, accepted'⟩
  · rw [declaredUnder_eq_error wrong]
    exact runTypes_eq_error_iff.mpr (declaredUnder_eq_error wrong')
  · rw [runTypes_eq_declaredUnder accepted', declaredUnder_generateOnly]
    cases declaredUnder s documents { options with generateOnly := none } <;> rfl

end Options

/-- A request for enums alone is a filter. The declarations that are made are those that are made
without the request, if all but enums are left out: in the same order, with the same texts, and this
holds of the schema's own types and of introspection types. Code is generated from them and from
nothing else, and cannot be generated exactly if it cannot without the request, for the same reason.
-/
theorem declaredUnder_enums (s : Schema) (documents : List Operation.Document)
    (options : Options) :
    let whole := { options with generateOnly := none }
    let enums := { options with generateOnly := some "enums" }
    declaredUnder s documents enums =
        (declaredUnder s documents whole).map (List.filter (·.1.isEnum)) ∧
      (∀ settings : Settings,
        (ownDeclarations s { settings with enumsOnly := true }).1 =
          (ownDeclarations s { settings with enumsOnly := false }).1.filter Declaration.isEnum) ∧
      (∀ (settings : Settings) admits,
        reflectDeclarations s { settings with enumsOnly := true } admits =
          (reflectDeclarations s { settings with enumsOnly := false } admits).filter
            Declaration.isEnum) ∧
      Generator.types.run s documents enums = (declaredUnder s documents whole).map
        (fun entries =>
          { content := String.intercalate "\n\n" ((entries.filter (·.1.isEnum)).map (·.2)) }) ∧
      ∀ e, Generator.types.run s documents enums = .error e ↔
        Generator.types.run s documents whole = .error e := by
  intro whole enums
  have generated : Generator.types.run s documents enums = _ := runTypes_generateOnly
  refine ⟨declaredUnder_generateOnly, fun settings => ?_, fun settings admits => ?_, generated,
    fun e => ?_⟩
  · have everything : { settings with enumsOnly := false }.enumsOnly = false := rfl
    exact ownDeclarations_enumsOnly everything
  · have everything : { settings with enumsOnly := false }.enumsOnly = false := rfl
    exact reflectDeclarations_enumsOnly everything admits
  · calc Generator.types.run s documents enums = .error e
      _ ↔ declaredUnder s documents whole = .error e := by rw [generated, map_eq_error_iff]
      _ ↔ Generator.types.run s documents whole = .error e := runTypes_eq_error_iff.symm

end GraphTypes
