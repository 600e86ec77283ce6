import GraphTypes.Proofs.Config.Checks

/-!
# Options that are accepted

Eight things are checked of a configuration, each by itself, and the mappers are checked one by one
(`Check`). `Options.Fault` says what each check may find. Options are accepted exactly if no check
finds a fault; otherwise the fault that is reported is the one that comes before all others
(`Options.settings_follow_checks`). A chain of steps reports the first of all faults because each
step reports the first fault of its stage (`Reports.bind`).
-/

namespace GraphTypes

namespace Config

open Name (Convention)

/-! ### Checks and faults -/

/-- What is checked of a configuration. -/
inductive Check where
  | typeNames
  | enumValues
  | enumStyle
  | maybeValue
  | generateOnly
  /-- The mapper of a type. -/
  | mapper (typeName : String)
  | defaultMapper
  | contextType

/-- The stage that a check belongs to. -/
def Check.stage : Check → Nat
  | typeNames => 0
  | enumValues => 1
  | enumStyle => 2
  | maybeValue => 3
  | generateOnly => 4
  | mapper _ => 5
  | defaultMapper => 6
  | contextType => 7

/-- The order of checks: by stage, and those of mappers by the names of their types. -/
inductive Check.Before : Check → Check → Prop
  | stage {c c' : Check} (h : c.stage < c'.stage) : Before c c'
  | mapper {typeName typeName' : String} (h : typeName < typeName') :
    Before (.mapper typeName) (.mapper typeName')

namespace Options

/-- What a check may find. -/
def Fault (o : Options) : Check → ConfigError → Prop
  | .typeNames, e => Misnamed o.typeNames e
  | .enumValues, e => Misnamed o.enumValues e
  | .enumStyle, e => o.constEnums ∧ o.enumsAsTypes ∧ e = .enumStylesCombined
  | .maybeValue, e => ¬ Mentions (o.maybeValue.getD "T | null").toList ∧
      e = .parameterUnused (o.maybeValue.getD "T | null")
  | .generateOnly, e => ∃ value ∈ o.generateOnly, value ≠ "enums" ∧ e = .unknownSelection value
  | .mapper typeName, e => Misread (o.mappers.get? typeName) (.mapper typeName) e
  | .defaultMapper, e => Misread o.defaultMapper .reference e
  | .contextType, e => Misread o.contextType .reference e

end Options

/-- An error is for a fault that is found, and that comes before all others that are. -/
def IsFirst (faults : Check → ConfigError → Prop) (e : ConfigError) : Prop :=
  ∃ check, faults check e ∧ ∀ earlier, earlier.Before check → ∀ e', ¬ faults earlier e'

namespace Options

/-- The first fault of options. -/
def FirstFault (o : Options) : ConfigError → Prop := IsFirst o.Fault

/-- Options that nothing is wrong with. -/
structure Valid (o : Options) : Prop where
  typeNames : ∀ name ∈ o.typeNames, ∃ c, Convention.Names name c
  enumValues : ∀ name ∈ o.enumValues, ∃ c, Convention.Names name c
  enumStyle : ¬ (o.constEnums ∧ o.enumsAsTypes)
  maybeValue : Mentions (o.maybeValue.getD "T | null").toList
  generateOnly : ∀ value ∈ o.generateOnly, value = "enums"
  mappers : ∀ typeName, ∀ text ∈ o.mappers.get? typeName, ∃ reference,
    Reference.parse text = .ok reference
  defaultMapper : ∀ text ∈ o.defaultMapper, ∃ reference, Reference.parse text = .ok reference
  contextType : ∀ text ∈ o.contextType, ∃ reference, Reference.parse text = .ok reference

/-- The settings that options ask for. -/
structure Yields (o : Options) (settings : Settings) : Prop where
  scalars : settings.scalars = o.scalars
  defaultScalarType : settings.defaultScalarType = o.defaultScalarType.getD "any"
  typeNaming : Chosen o.typeNames settings.typeNaming
  enumValueNaming : Chosen o.enumValues settings.enumValueNaming
  avoidOptionals : settings.avoidOptionals = o.avoidOptionals
  constEnums : settings.enumStyle = .const ↔ o.constEnums
  enumsAsTypes : settings.enumStyle = .stringUnion ↔ o.enumsAsTypes
  immutableTypes : settings.immutableTypes = o.immutableTypes
  maybeValue : settings.maybeValue = o.maybeValue.getD "T | null"
  parameter : Mentions settings.maybeValue.toList
  exported : settings.exported = !o.noExport
  generateOnly : o.generateOnly = if settings.enumsOnly then some "enums" else none
  includeIntrospectionTypes : settings.includeIntrospectionTypes = o.includeIntrospectionTypes
  mappers : Dictionary.Checked (fun _ => Reference.parse) o.mappers.entries settings.mappers.entries
  defaultMapper : Option.Rel (fun text reference => Reference.parse text = .ok reference)
    o.defaultMapper settings.defaultMapper
  contextType : Option.Rel (fun text reference => Reference.parse text = .ok reference)
    o.contextType settings.contextType

end Options

/-! ### Order -/

theorem Check.Before.irrefl {c : Check} : ¬ c.Before c := by
  rintro (h | h)
  · exact Nat.lt_irrefl _ h
  · exact String.lt_irrefl _ h

theorem Check.Before.stage_le {c c' : Check} (h : c.Before c') : c.stage ≤ c'.stage := by
  cases h with
  | stage h => exact h.le
  | mapper h => exact le_rfl

/-- A stage has one check, unless it is that of the mappers. -/
theorem Check.eq_or_mappers {c c' : Check} (h : c.stage = c'.stage) :
    c = c' ∨ ∃ typeName typeName', c = .mapper typeName ∧ c' = .mapper typeName' := by
  cases c <;> cases c' <;> simp_all [stage]

/-- Of two different checks one comes first. -/
theorem Check.eq_or_before (c c' : Check) : c = c' ∨ c.Before c' ∨ c'.Before c := by
  rcases Nat.lt_trichotomy c.stage c'.stage with h | h | h
  · exact Or.inr (Or.inl (.stage h))
  · rcases eq_or_mappers h with heq | ⟨typeName, typeName', rfl, rfl⟩
    · exact Or.inl heq
    · by_cases before : typeName < typeName'
      · exact Or.inr (Or.inl (.mapper before))
      · by_cases after : typeName' < typeName
        · exact Or.inr (Or.inr (.mapper after))
        · rw [String.not_lt] at before after
          exact Or.inl (congrArg Check.mapper (String.le_antisymm after before))
  · exact Or.inr (Or.inr (.stage h))

namespace Options

variable {o : Options} {check : Check} {e e' : ConfigError}

/-- A check finds one fault at most. -/
theorem Fault.unique (h : o.Fault check e) (h' : o.Fault check e') : e = e' := by
  have misnamed : ∀ {given}, Misnamed given e → Misnamed given e' → e = e' := by
    rintro given ⟨name, hname, -, rfl⟩ ⟨name', hname', -, rfl⟩
    rw [Option.mem_unique hname hname']
  have misread : ∀ {given report}, Misread given report e → Misread given report e' → e = e' := by
    rintro given report ⟨text, htext, cause, failed, rfl⟩ ⟨text', htext', cause', failed', rfl⟩
    rw [Option.mem_unique htext htext', failed'] at failed
    cases failed
    rfl
  cases check with
  | typeNames => exact misnamed h h'
  | enumValues => exact misnamed h h'
  | enumStyle => exact h.2.2.trans h'.2.2.symm
  | maybeValue => exact h.2.trans h'.2.symm
  | generateOnly =>
    obtain ⟨value, hvalue, -, rfl⟩ := h
    obtain ⟨value', hvalue', -, rfl⟩ := h'
    rw [Option.mem_unique hvalue hvalue']
  | mapper typeName => exact misread h h'
  | defaultMapper => exact misread h h'
  | contextType => exact misread h h'

theorem Fault.of_mapper {typeName : String} {cause : ReferenceError}
    (h : o.Fault check (.mapper typeName cause)) :
    ∃ text ∈ o.mappers.get? typeName, Reference.parse text = .error cause := by
  cases check with
  | mapper typeName' =>
    obtain ⟨text, given, _, refused, ⟨⟩⟩ := h
    exact ⟨text, given, refused⟩
  | _ => simp [Fault, Misnamed, Misread] at h

theorem FirstFault.unique (h : o.FirstFault e) (h' : o.FirstFault e') : e = e' := by
  obtain ⟨check, fault, least⟩ := h
  obtain ⟨check', fault', least'⟩ := h'
  rcases check.eq_or_before check' with rfl | before | before
  · exact fault.unique fault'
  · exact absurd fault (least' check before e)
  · exact absurd fault' (least check' before e')

/-- Options are valid if no check finds a fault. -/
theorem valid_iff : o.Valid ↔ ∀ check e, ¬ o.Fault check e := by
  constructor
  · intro valid check
    cases check with
    | typeNames => exact forall_not_misnamed.mpr valid.typeNames
    | enumValues => exact forall_not_misnamed.mpr valid.enumValues
    | enumStyle =>
      rintro e ⟨constant, types, -⟩
      exact valid.enumStyle ⟨constant, types⟩
    | maybeValue =>
      rintro e ⟨unused, -⟩
      exact unused valid.maybeValue
    | generateOnly =>
      rintro e ⟨value, given, other, -⟩
      exact other (valid.generateOnly value given)
    | mapper typeName => exact forall_not_misread.mpr (valid.mappers typeName)
    | defaultMapper => exact forall_not_misread.mpr valid.defaultMapper
    | contextType => exact forall_not_misread.mpr valid.contextType
  · intro faultless
    exact
      { typeNames := forall_not_misnamed.mp (faultless .typeNames)
        enumValues := forall_not_misnamed.mp (faultless .enumValues)
        enumStyle := fun ⟨constant, types⟩ => faultless .enumStyle _ ⟨constant, types, rfl⟩
        maybeValue := by_contra fun unused => faultless .maybeValue _ ⟨unused, rfl⟩
        generateOnly := fun value given =>
          by_contra fun other => faultless .generateOnly _ ⟨value, given, other, rfl⟩
        mappers := fun typeName => forall_not_misread.mp (faultless (.mapper typeName))
        defaultMapper := forall_not_misread.mp (faultless .defaultMapper)
        contextType := forall_not_misread.mp (faultless .contextType) }

/-! ### Reports -/

/-- The faults of a stage. -/
def FaultAt (o : Options) (stage : Nat) (check : Check) (e : ConfigError) : Prop :=
  check.stage = stage ∧ o.Fault check e

/-- The faults of a stage and of those behind it. -/
def FaultFrom (o : Options) (stage : Nat) (check : Check) (e : ConfigError) : Prop :=
  stage ≤ check.stage ∧ o.Fault check e

end Options

/-- A step fails if there are faults that it is to find, and with the first of them. -/
structure Reports {α : Type} (faults : Check → ConfigError → Prop) (result : Except ConfigError α) :
    Prop where
  first : ∀ e, result = .error e → IsFirst faults e
  faultless : ∀ a, result = .ok a → ∀ check e, ¬ faults check e

namespace Reports

variable {o : Options} {α β : Type}

/-- A stage that is one check. -/
theorem of_check (check : Check) (single : ∀ typeName, check ≠ .mapper typeName)
    {result : Except ConfigError α} (h : ∀ e, result = .error e ↔ o.Fault check e) :
    Reports (o.FaultAt check.stage) result := by
  have only : ∀ {check'}, check'.stage = check.stage → check' = check := by
    intro check' stage
    rcases Check.eq_or_mappers stage with heq | ⟨_, typeName, -, mapper⟩
    · exact heq
    · exact absurd mapper (single typeName)
  constructor
  · intro e failed
    refine ⟨check, ⟨rfl, (h e).mp failed⟩, ?_⟩
    rintro earlier before e' ⟨stage, -⟩
    obtain rfl := only stage
    exact before.irrefl
  · rintro a passed check' e ⟨stage, fault⟩
    obtain rfl := only stage
    rw [(h e).mpr fault] at passed
    cases passed

/-- Behind the last stage there is nothing to be found. -/
theorem done (o : Options) (a : α) : Reports (o.FaultFrom 8) (.ok a) where
  first := by rintro e ⟨⟩
  faultless := by
    rintro _ - check e ⟨late, -⟩
    have bound : check.stage < 8 := by cases check <;> simp [Check.stage]
    exact Nat.not_le.mpr bound late

/-- A stage in front of others. -/
theorem bind {stage : Nat} {step : Except ConfigError α} {next : α → Except ConfigError β}
    (hstep : Reports (o.FaultAt stage) step)
    (hnext : ∀ a, Reports (o.FaultFrom (stage + 1)) (next a)) :
    Reports (o.FaultFrom stage) (step >>= next) := by
  constructor
  · intro e failed
    rcases bind_eq_error_iff.mp failed with failed | ⟨a, passed, failed⟩
    · obtain ⟨check, ⟨rfl, fault⟩, least⟩ := hstep.first e failed
      refine ⟨check, ⟨le_rfl, fault⟩, ?_⟩
      rintro earlier before e' ⟨late, fault'⟩
      exact least earlier before e' ⟨le_antisymm before.stage_le late, fault'⟩
    · obtain ⟨check, ⟨late, fault⟩, least⟩ := (hnext a).first e failed
      refine ⟨check, ⟨Nat.le_of_succ_le late, fault⟩, ?_⟩
      rintro earlier before e' ⟨late', fault'⟩
      -- The stage itself has no fault.
      rcases late'.eq_or_lt with rfl | late'
      · exact hstep.faultless a passed earlier e' ⟨rfl, fault'⟩
      · exact least earlier before e' ⟨late', fault'⟩
  · rintro b passed check e ⟨late, fault⟩
    obtain ⟨a, first, passed⟩ := exists_of_bind_eq_ok passed
    rcases late.eq_or_lt with rfl | late
    · exact hstep.faultless a first check e ⟨rfl, fault⟩
    · exact (hnext a).faultless b passed check e ⟨late, fault⟩

end Reports

/-! ### Resolving -/

namespace Options

variable (o : Options)

/-- The mappers are checked by the names of their types. -/
theorem reports_mappers : Reports (o.FaultAt 5) (o.mappers.traverse readMapper) := by
  constructor
  · intro e failed
    obtain ⟨typeName, text, given, failed, before⟩ := Dictionary.first_of_traverse failed
    refine ⟨.mapper typeName, ⟨rfl, ?_⟩, ?_⟩
    · rw [Fault, given]
      exact readMapper_eq_error_iff.mp failed
    · rintro earlier (hstage | hname) e' ⟨at_, fault⟩
      · exact absurd at_ hstage.ne
      · next typeName' =>
        obtain ⟨text', given', cause, unread, -⟩ := fault
        obtain ⟨reference, read⟩ := before typeName' hname text' given'
        rw [readMapper_eq_ok_iff, unread] at read
        cases read
  · rintro mappers passed check e ⟨at_, fault⟩
    obtain ⟨typeName, rfl⟩ : ∃ typeName, check = .mapper typeName := by
      cases check <;> simp_all [Check.stage]
    obtain ⟨text, given, cause, unread, -⟩ := fault
    obtain ⟨reference, read⟩ := (Dictionary.traverse_eq_ok_iff.mp passed).exists_of_mem
      (Dictionary.get?_eq_some_iff.mp given)
    rw [readMapper_eq_ok_iff, unread] at read
    cases read

/-- What is reported of options is the first of their faults. -/
theorem reports_resolve : Reports o.Fault o.resolve := by
  have whole : o.FaultFrom 0 = o.Fault := by
    funext check e
    simp [FaultFrom]
  rw [resolve, conventions_eq, ← whole]
  simp only [bind_assoc, pure_bind]
  refine .bind (.of_check .typeNames (by simp) fun _ => conventionOrDefault_eq_error_iff)
    fun _ => ?_
  refine .bind (.of_check .enumValues (by simp) fun _ => conventionOrDefault_eq_error_iff)
    fun _ => ?_
  refine .bind (.of_check .enumStyle (by simp) fun _ => enumStyle_eq_error_iff) fun _ => ?_
  refine .bind (.of_check .maybeValue (by simp) fun _ => maybeTemplate_eq_error_iff) fun _ => ?_
  refine .bind (.of_check .generateOnly (by simp) fun _ => selectsEnums_eq_error_iff) fun _ => ?_
  refine .bind (reports_mappers o) fun _ => ?_
  refine .bind (.of_check .defaultMapper (by simp) fun _ => readReference_eq_error_iff) fun _ => ?_
  refine .bind (.of_check .contextType (by simp) fun _ => readReference_eq_error_iff) fun _ => ?_
  exact .done o _

theorem resolve_eq_error_iff {e : ConfigError} : o.resolve = .error e ↔ o.FirstFault e := by
  refine ⟨(reports_resolve o).first e, fun h => ?_⟩
  cases outcome : o.resolve with
  | ok settings =>
    obtain ⟨check, fault, -⟩ := h
    exact absurd fault ((reports_resolve o).faultless settings outcome check e)
  | error e' => rw [h.unique ((reports_resolve o).first e' outcome)]

theorem exists_resolve_eq_ok_iff : (∃ settings, o.resolve = .ok settings) ↔ o.Valid := by
  rw [valid_iff]
  constructor
  · rintro ⟨settings, passed⟩
    exact (reports_resolve o).faultless settings passed
  · intro faultless
    cases outcome : o.resolve with
    | ok settings => exact ⟨settings, rfl⟩
    | error e =>
      obtain ⟨check, fault, -⟩ := (reports_resolve o).first e outcome
      exact absurd fault (faultless check e)

theorem resolve_eq_ok_iff {settings : Settings} : o.resolve = .ok settings ↔ o.Yields settings := by
  rw [resolve_eq_ok_iff_passes]
  constructor
  · intro h
    obtain ⟨template, mentioned⟩ := maybeTemplate_eq_ok_iff.mp h.maybeValue
    exact
      { h with
        typeNaming := (conventions_eq_ok_iff.mp h.naming).1
        enumValueNaming := (conventions_eq_ok_iff.mp h.naming).2
        constEnums := (enumStyle_eq_ok_iff.mp h.enumStyle).1
        enumsAsTypes := (enumStyle_eq_ok_iff.mp h.enumStyle).2
        maybeValue := template
        parameter := template ▸ mentioned
        generateOnly := selectsEnums_eq_ok_iff.mp h.generateOnly
        mappers := checked_iff.mp (Dictionary.traverse_eq_ok_iff.mp h.mappers)
        defaultMapper := readReference_eq_ok_iff.mp h.defaultMapper
        contextType := readReference_eq_ok_iff.mp h.contextType }
  · intro h
    exact
      { h with
        naming := conventions_eq_ok_iff.mpr ⟨h.typeNaming, h.enumValueNaming⟩
        enumStyle := enumStyle_eq_ok_iff.mpr ⟨h.constEnums, h.enumsAsTypes⟩
        maybeValue := maybeTemplate_eq_ok_iff.mpr ⟨h.maybeValue, h.maybeValue ▸ h.parameter⟩
        generateOnly := selectsEnums_eq_ok_iff.mpr h.generateOnly
        mappers := Dictionary.traverse_eq_ok_iff.mpr (checked_iff.mpr h.mappers)
        defaultMapper := readReference_eq_ok_iff.mpr h.defaultMapper
        contextType := readReference_eq_ok_iff.mpr h.contextType }

/-- Options are accepted exactly if they are valid, and give the settings that they ask for, every
part of which was checked. Otherwise the first of their faults is reported, in the order of the
checks; that of a mapper names the type, which no schema needs to have. No code is generated from
such options, for whatever schema. -/
theorem settings_follow_checks (o : Options) :
    (∀ settings, o.settings = .ok settings ↔ o.Yields settings) ∧
    ((∃ settings, o.settings = .ok settings) ↔ o.Valid) ∧
    (∀ e, o.settings = .error e ↔ ∃ fault, o.FirstFault fault ∧ e = .config fault) ∧
    (∀ typeName cause, o.FirstFault (.mapper typeName cause) →
      (∃ text, (typeName, text) ∈ o.mappers.entries ∧ Reference.parse text = .error cause) ∧
      (Error.config (.mapper typeName cause)).message =
        "config error: " ++ ("mapper for `" ++ typeName ++ "`: " ++ cause.message)) ∧
    ∀ fault, o.FirstFault fault →
      ∀ s documents g, Generator.run s documents o g = .error (.config fault) := by
  have errors : ∀ e, o.settings = .error e ↔ ∃ fault, o.FirstFault fault ∧ e = .config fault := by
    intro e
    rw [settings, mapError_eq_error_iff]
    simp only [resolve_eq_error_iff]
  refine ⟨?_, ?_, errors, ?_, ?_⟩
  · intro made
    rw [settings_eq_ok_iff, resolve_eq_ok_iff]
  · simp only [settings_eq_ok_iff]
    exact o.exists_resolve_eq_ok_iff
  · rintro typeName cause ⟨check, fault, -⟩
    obtain ⟨text, given, refused⟩ := fault.of_mapper
    exact ⟨⟨text, Dictionary.get?_eq_some_iff.mp given, refused⟩, rfl⟩
  · intro fault first s documents g
    have wrong := (errors _).mpr ⟨fault, first, rfl⟩
    cases g with
    | types =>
      rw [Generator.run]
      exact Generator.runTypes_error_iff.mpr (Or.inl wrong)
    | resolvers =>
      rw [Generator.run]
      exact Generator.runResolvers_error_iff.mpr wrong

/-- Neither of two mappers can be read, for types that the schema does not have, and neither can the
type of the context. -/
def misread : Options where
  mappers := ⟨[("Ant", "./models#"), ("Zebra", "#Zebra")], by decide +kernel⟩
  contextType := some ""

/-- The mapper whose type has the first name is reported. -/
theorem settings_follow_checks_misread :
    misread.FirstFault (.mapper "Ant" (.invalidSymbol "./models#")) ∧
      Generator.run Schema.library [] misread .types =
        .error (.config (.mapper "Ant" (.invalidSymbol "./models#"))) ∧
      Generator.run Schema.library [] misread .resolvers =
        .error (.config (.mapper "Ant" (.invalidSymbol "./models#"))) := by
  have outcome : misread.settings = .error (.config (.mapper "Ant" (.invalidSymbol "./models#"))) :=
    rfl
  obtain ⟨-, -, errors, -, generated⟩ := settings_follow_checks misread
  obtain ⟨fault, first, reported⟩ := (errors _).mp outcome
  cases reported
  exact ⟨first, generated _ first _ _ _, generated _ first _ _ _⟩

end Options

end Config

end GraphTypes
