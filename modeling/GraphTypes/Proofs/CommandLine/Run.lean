import Mathlib.Data.List.Forall2
import GraphTypes.CommandLine.Run
import GraphTypes.Proofs.CommandLine.Files
import GraphTypes.Proofs.Output

/-!
# Runs are all or nothing

A run goes through stages in a fixed order (`Stage.all`). What goes wrong at a stage, if anything,
is said for each stage alone, from the arguments and the files as they are before the run
(`Stage.failure?`). So several stages can fail on the same input; the run reports the first that
does, and leaves all files as they are. If none does, all code that was asked for is generated and
delivered.

`GoesThrough` says this of a step of a run and the stages that it goes through. Steps that follow
each other go through their stages one after the other (`GoesThrough.bind`), so each step is looked
at once and alone.
-/

namespace GraphTypes.CommandLine

open Config

/-! ### What a run is given -/

/-- Why there is no result, if there is none. -/
def error? {ε α : Type} : Except ε α → Option ε
  | .ok _ => none
  | .error e => some e

/-- What code is generated from. -/
structure Inputs where
  schema : Schema
  options : Options
  documents : List Operation.Document

section Inputs

variable (t : FileTree) (a : Arguments)

/-- The text of a file, if it can be read. -/
def text? (path : String) : Option String := (t.read path).toOption

/-- What the text of the schema declares. -/
def sdl? : Option Sdl.Document := do
  let path ← a.schema
  let text ← text? t path
  Sdl.Document.ofText? text

def options? : Option Options :=
  match a.config with
  | none => some {}
  | some path => (text? t path).bind Options.ofText?

def document? (path : String) : Option Operation.Document :=
  (text? t path).bind Operation.Document.ofText?

/-- What code is generated from, if everything can be read and the schema is well formed. -/
def inputs? : Option Inputs := do
  let sdl ← sdl? t a
  let schema ← (Schema.ofDocument sdl).toOption
  let options ← options? t a
  let documents ← a.documents.mapM (document? t)
  return { schema, options, documents }

/-- What a generator makes of the inputs. -/
def Inputs.generate (i : Inputs) (g : Generator) : Result Output :=
  g.run i.schema i.documents i.options

/-- The text of the file that all generators together make, if they all succeed. -/
def source? : Option String := do
  let i ← inputs? t a
  let outputs ← a.generators.mapM fun g => (i.generate g).toOption
  return (outputs.foldl Output.merge .empty).source

end Inputs

/-! ### Stages -/

/-- What a run goes through. -/
inductive Stage where
  | schemaFile
  | configFile
  | configText
  | schemaText
  | schemaIntegrity
  | documentFile (path : String)
  | documentText (path : String)
  | generator (g : Generator)
  | outputFile
  deriving DecidableEq, Repr

namespace Stage

/-- All stages of a run, in order. -/
def all (a : Arguments) : List Stage :=
  [schemaFile, configFile, configText, schemaText, schemaIntegrity] ++
    a.documents.map documentFile ++ a.documents.map documentText ++
    a.generators.map generator ++ [outputFile]

/-- What goes wrong at a stage, whatever goes wrong elsewhere. A stage that lacks what it works on
has nothing to fail at. -/
def failure? (t : FileTree) (a : Arguments) : Stage → Option Failure
  | schemaFile =>
    match a.schema with
    | some path => (error? (t.read path)).map (.schemaFile path)
    | none => some (.schemaUrl (refuseEndpoint (a.url.getD "")))
  | configFile => do
    let path ← a.config
    (error? (t.read path)).map (.inputFile path)
  | configText => do
    let path ← a.config
    let text ← text? t path
    if (Options.ofText? text).isNone then some .malformedConfig else none
  | schemaText => do
    let path ← a.schema
    let text ← text? t path
    if (Sdl.Document.ofText? text).isNone then some .malformedSchema else none
  | schemaIntegrity => do
    let sdl ← sdl? t a
    (error? (Schema.ofDocument sdl)).map .schema
  | documentFile path => (error? (t.read path)).map (.inputFile path)
  | documentText path => do
    let text ← text? t path
    if (Operation.Document.ofText? text).isNone then some (.malformedDocument path) else none
  | generator g => do
    let i ← inputs? t a
    (error? (i.generate g)).map (.generator g)
  | outputFile => do
    let path ← a.out
    let source ← source? t a
    (error? (t.write path source)).map (.outputFile path)

end Stage

/-! ### Steps -/

section Steps

variable {t t' : FileTree} {a : Arguments} {α β : Type} {stages others : List Stage}
  {step : ExceptT Failure (StateM FileTree) α} {next : α → ExceptT Failure (StateM FileTree) β}
  {f : Failure}

theorem run_bind_error (h : step.run.run t = (.error f, t')) :
    (step >>= next).run.run t = (.error f, t') := by
  rw [ExceptT.run_bind, StateT.run_bind, h]
  rfl

theorem run_bind_ok {x : α} (h : step.run.run t = (.ok x, t')) :
    (step >>= next).run.run t = (next x).run.run t' := by
  rw [ExceptT.run_bind, StateT.run_bind, h]
  rfl

/-- What is done to files happens, whatever the step does with the result. -/
theorem run_liftM_bind {γ : Type} {x : StateM FileTree γ}
    {use : γ → ExceptT Failure (StateM FileTree) β} {c : γ} (h : x.run t = (c, t')) :
    ((liftM x : ExceptT Failure (StateM FileTree) γ) >>= use).run.run t = (use c).run.run t' := by
  apply run_bind_ok
  show (Except.ok <$> x).run t = _
  rw [StateT.run_map, h]
  rfl

/-- A step goes through stages if it fails as the first stage that does, without any effect, and if
it is `done` where no stage fails. -/
structure GoesThrough (t : FileTree) (a : Arguments) (stages : List Stage)
    (step : ExceptT Failure (StateM FileTree) α) (done : α → FileTree → Prop) : Prop where
  fails : ∀ f, stages.findSome? (·.failure? t a) = some f → step.run.run t = (.error f, t)
  passes : stages.findSome? (·.failure? t a) = none →
    ∃ x t', step.run.run t = (.ok x, t') ∧ done x t'

/-- A step that only looks at files goes through stages, and yields what is `known` to be right. -/
abbrev Reads (t : FileTree) (a : Arguments) (stages : List Stage)
    (step : ExceptT Failure (StateM FileTree) α) (known : α → Prop) : Prop :=
  GoesThrough t a stages step fun x t' => known x ∧ t' = t

theorem GoesThrough.bind {known : α → Prop} {done : β → FileTree → Prop}
    (first : Reads t a stages step known)
    (rest : ∀ x, known x → GoesThrough t a others (next x) done) :
    GoesThrough t a (stages ++ others) (step >>= next) done := by
  constructor
  · intro f failed
    rw [List.findSome?_append] at failed
    cases front : stages.findSome? (·.failure? t a) with
    | some g =>
      rw [front, Option.some_or] at failed
      cases failed
      exact run_bind_error (first.fails _ front)
    | none =>
      rw [front, Option.none_or] at failed
      obtain ⟨x, _, ran, hx, rfl⟩ := first.passes front
      rw [run_bind_ok ran]
      exact (rest x hx).fails f failed
  · intro passed
    rw [List.findSome?_append, Option.or_eq_none_iff] at passed
    obtain ⟨x, _, ran, hx, rfl⟩ := first.passes passed.1
    rw [run_bind_ok ran]
    exact (rest x hx).passes passed.2

theorem GoesThrough.imp {done done' : α → FileTree → Prop} (h : GoesThrough t a stages step done)
    (imp : ∀ x t', done x t' → done' x t') : GoesThrough t a stages step done' where
  fails := h.fails
  passes passed := by
    obtain ⟨x, t', ran, hx⟩ := h.passes passed
    exact ⟨x, t', ran, imp x t' hx⟩

theorem reads_pure {known : α → Prop} {x : α} (h : known x) : Reads t a [] (pure x) known where
  fails _ failed := by cases failed
  passes _ := ⟨x, t, rfl, h, rfl⟩

/-- A step that goes through one stage and has the same failure. -/
theorem reads_of_run {stage : Stage} {r : Except Failure α} (ran : step.run.run t = (r, t))
    (h : stage.failure? t a = error? r) : Reads t a [stage] step (r = .ok ·) := by
  cases r with
  | ok x =>
    refine ⟨fun f failed => ?_, fun _ => ⟨x, t, ran, rfl, rfl⟩⟩
    rw [List.findSome?_singleton, h] at failed
    cases failed
  | error e =>
    refine ⟨fun f failed => ?_, fun passed => ?_⟩
    · rw [List.findSome?_singleton, h] at failed
      cases failed
      exact ran
    · rw [List.findSome?_singleton, h] at passed
      cases passed

end Steps

/-! ### The steps of a run -/

section Run

variable {t : FileTree} {a : Arguments}

theorem error?_mapError {ε ε' α : Type} (r : Except ε α) (report : ε → ε') :
    error? (r.mapError report) = (error? r).map report := by
  cases r <;> rfl

theorem toOption_eq_some_iff {ε α : Type} {r : Except ε α} {x : α} :
    r.toOption = some x ↔ r = .ok x := by
  cases r <;> simp [Except.toOption]

theorem run_readFile (failure : FileError → Failure) (path : String) :
    (readFile FileTree.access failure path).run.run t = ((t.read path).mapError failure, t) := by
  have access : (FileTree.access.read path).run t = (t.read path, t) := rfl
  rw [readFile, run_liftM_bind access]
  cases t.read path <;> rfl

theorem reads_readFile {failure : FileError → Failure} {path : String} {stage : Stage}
    (h : stage.failure? t a = (error? (t.read path)).map failure) :
    Reads t a [stage] (readFile FileTree.access failure path) (text? t path = some ·) := by
  rw [← error?_mapError] at h
  apply (reads_of_run (run_readFile failure path) h).imp
  rintro text t' ⟨read, unchanged⟩
  exact ⟨toOption_eq_some_iff.mpr (eq_ok_of_mapError_eq_ok read), unchanged⟩

/-- What a text says, or the failure that it says nothing. -/
def orFail {α : Type} (result : Option α) (failure : Failure) : Except Failure α :=
  match result with
  | some x => .ok x
  | none => .error failure

theorem error?_orFail {α : Type} (result : Option α) (failure : Failure) :
    error? (orFail result failure) = if result.isNone then some failure else none := by
  cases result <;> rfl

theorem orFail_eq_ok {α : Type} {result : Option α} {failure : Failure} {x : α}
    (h : orFail result failure = .ok x) : result = some x := by
  cases result with
  | none => cases h
  | some y => cases h; rfl

theorem reads_schemaText :
    Reads t a [.schemaFile] (schemaText FileTree.access a)
      (fun text => ∃ path, a.schema = some path ∧ text? t path = some text) := by
  rw [schemaText]
  cases given : a.schema with
  | none =>
    have failure : Stage.failure? t a .schemaFile =
        some (.schemaUrl (refuseEndpoint (a.url.getD ""))) := by
      simp only [Stage.failure?, given]
    have ran : (throw (.schemaUrl (refuseEndpoint (a.url.getD ""))) :
        ExceptT Failure (StateM FileTree) String).run.run t =
          (.error (.schemaUrl (refuseEndpoint (a.url.getD ""))), t) := rfl
    apply (reads_of_run ran failure).imp
    rintro text t' ⟨⟨⟩, -⟩
  | some path =>
    have failure : Stage.failure? t a .schemaFile =
        (error? (t.read path)).map (.schemaFile path) := by
      simp only [Stage.failure?, given]
    apply (reads_readFile failure).imp
    rintro text t' ⟨read, unchanged⟩
    exact ⟨⟨path, rfl, read⟩, unchanged⟩

theorem reads_loadOptions :
    Reads t a ([.configFile] ++ [.configText]) (loadOptions FileTree.access a)
      (options? t a = some ·) := by
  rw [loadOptions]
  cases given : a.config with
  | none =>
    refine ⟨fun f failed => ?_, fun _ => ⟨{}, t, rfl, ?_, rfl⟩⟩
    · simp [Stage.failure?, given] at failed
    · simp only [options?, given]
  | some path =>
    have file : Stage.failure? t a .configFile =
        (error? (t.read path)).map (.inputFile path) := by
      simp only [Stage.failure?, given, Option.bind_eq_bind, Option.bind_some]
    apply (reads_readFile file).bind
    intro text read
    have failure : Stage.failure? t a .configText =
        error? (orFail (Options.ofText? text) .malformedConfig) := by
      rw [error?_orFail]
      simp only [Stage.failure?, given, Option.bind_eq_bind, Option.bind_some, read]
    refine (reads_of_run ?_ failure).imp ?_
    · cases Options.ofText? text <;> rfl
    · rintro options t' ⟨parsed, unchanged⟩
      refine ⟨?_, unchanged⟩
      simp only [options?, given, read, Option.bind_some]
      exact orFail_eq_ok parsed

theorem reads_readSchema {text : String}
    (h : ∃ path, a.schema = some path ∧ text? t path = some text) :
    Reads t a ([.schemaText] ++ [.schemaIntegrity]) (ExceptT.mk (pure (readSchema text)))
      (fun s => ∃ sdl, sdl? t a = some sdl ∧ Schema.ofDocument sdl = .ok s) := by
  obtain ⟨path, given, read⟩ := h
  have sdl : sdl? t a = Sdl.Document.ofText? text := by
    simp only [sdl?, given, Option.bind_eq_bind, Option.bind_some, read]
  have failure : Stage.failure? t a .schemaText =
      error? (orFail (Sdl.Document.ofText? text) .malformedSchema) := by
    rw [error?_orFail]
    simp only [Stage.failure?, given, Option.bind_eq_bind, Option.bind_some, read]
  have split : (ExceptT.mk (pure (readSchema text)) : ExceptT Failure (StateM FileTree) Schema) =
      ExceptT.mk (pure (orFail (Sdl.Document.ofText? text) .malformedSchema)) >>= fun doc =>
        ExceptT.mk (pure ((Schema.ofDocument doc).mapError .schema)) := by
    rw [readSchema]
    cases Sdl.Document.ofText? text <;> rfl
  rw [split]
  apply (reads_of_run rfl failure).bind
  intro doc parsed
  have integrity : Stage.failure? t a .schemaIntegrity =
      error? ((Schema.ofDocument doc).mapError .schema) := by
    rw [error?_mapError]
    simp only [Stage.failure?, sdl, orFail_eq_ok parsed, Option.bind_eq_bind, Option.bind_some]
  apply (reads_of_run rfl integrity).imp
  rintro s t' ⟨accepted, unchanged⟩
  exact ⟨⟨doc, sdl.trans (orFail_eq_ok parsed), eq_ok_of_mapError_eq_ok accepted⟩, unchanged⟩

/-! ### Documents -/

theorem reads_readFiles (paths : List String) :
    Reads t a (paths.map .documentFile) (readFiles FileTree.access paths)
      (List.Forall₂ (fun path text => text? t path = some text) paths) := by
  induction paths with
  | nil => exact reads_pure .nil
  | cons path rest ih =>
    have stages : (path :: rest).map Stage.documentFile =
        [.documentFile path] ++ (rest.map .documentFile ++ []) := by simp
    rw [stages, readFiles]
    apply (reads_readFile rfl).bind
    intro text read
    apply ih.bind
    intro texts others
    exact reads_pure (.cons read others)

theorem reads_readDocuments {paths texts : List String}
    (h : List.Forall₂ (fun path text => text? t path = some text) paths texts) :
    Reads t a (paths.map .documentText) (ExceptT.mk (pure (readDocuments (paths.zip texts))))
      (List.Forall₂ (fun path doc => document? t path = some doc) paths) := by
  induction h with
  | nil => exact reads_pure .nil
  | @cons path text paths texts read _ ih =>
    have stages : (path :: paths).map Stage.documentText =
        [.documentText path] ++ (paths.map .documentText ++ []) := by simp
    have failure : Stage.failure? t a (.documentText path) =
        error? (orFail (Operation.Document.ofText? text) (.malformedDocument path)) := by
      rw [error?_orFail]
      simp only [Stage.failure?, Option.bind_eq_bind, Option.bind_some, read]
    have split : (ExceptT.mk (pure (readDocuments ((path :: paths).zip (text :: texts)))) :
        ExceptT Failure (StateM FileTree) (List Operation.Document)) =
          ExceptT.mk (pure (orFail (Operation.Document.ofText? text) (.malformedDocument path)))
            >>= fun doc => ExceptT.mk (pure (readDocuments (paths.zip texts)))
              >>= fun docs => pure (doc :: docs) := by
      rw [List.zip_cons_cons, readDocuments]
      cases Operation.Document.ofText? text with
      | none => rfl
      | some doc => cases readDocuments (paths.zip texts) <;> rfl
    rw [stages, split]
    apply (reads_of_run rfl failure).bind
    intro doc parsed
    apply ih.bind
    intro docs others
    refine reads_pure (.cons ?_ others)
    rw [document?, read]
    exact orFail_eq_ok parsed

/-! ### Code -/

/-- For every place in one list there is a result at the same place in the other. -/
theorem mapM_eq_some {α β : Type} {f : α → Option β} {xs : List α} {ys : List β}
    (h : List.Forall₂ (fun x y => f x = some y) xs ys) : xs.mapM f = some ys := by
  induction h with
  | nil => rfl
  | cons first _ ih => rw [List.mapM_cons, first, ih]; rfl

/-- What the stages before have read is what code is generated from. -/
theorem inputs?_eq_some {sdl : Sdl.Document} {i : Inputs} (hsdl : sdl? t a = some sdl)
    (schema : Schema.ofDocument sdl = .ok i.schema) (options : options? t a = some i.options)
    (documents : List.Forall₂ (fun path doc => document? t path = some doc) a.documents
      i.documents) : inputs? t a = some i := by
  rw [inputs?, hsdl, Option.bind_eq_bind, Option.bind_some, schema, options,
    mapM_eq_some documents]
  rfl

/-- The outputs of several generators are merged in order behind what is there. -/
theorem reads_runAll {i : Inputs} (h : inputs? t a = some i) (generators : List Generator)
    (output : Output) :
    Reads t a (generators.map .generator)
      (ExceptT.mk (pure ((Generator.runAll i.schema i.documents i.options output
        generators).mapError fun (g, e) => .generator g e)))
      (fun merged => ∃ outputs,
        List.Forall₂ (fun g o => i.generate g = .ok o) generators outputs ∧
          merged = outputs.foldl Output.merge output) := by
  induction generators generalizing output with
  | nil => exact reads_pure ⟨[], .nil, rfl⟩
  | cons g rest ih =>
    have failure : Stage.failure? t a (.generator g) =
        error? ((i.generate g).mapError (.generator g)) := by
      rw [error?_mapError]
      simp only [Stage.failure?, h, Option.bind_eq_bind, Option.bind_some]
    have split : (ExceptT.mk (pure ((Generator.runAll i.schema i.documents i.options output
        (g :: rest)).mapError fun (g, e) => .generator g e)) :
          ExceptT Failure (StateM FileTree) Output) =
        ExceptT.mk (pure ((i.generate g).mapError (.generator g))) >>= fun more =>
          ExceptT.mk (pure ((Generator.runAll i.schema i.documents i.options (output.merge more)
            rest).mapError fun (g, e) => .generator g e)) := by
      rw [Generator.runAll, Inputs.generate]
      cases g.run i.schema i.documents i.options <;> rfl
    rw [split]
    show Reads t a ([.generator g] ++ rest.map .generator) _ _
    apply (reads_of_run rfl failure).bind
    intro more generated
    apply (ih (output.merge more)).imp
    rintro merged t' ⟨⟨outputs, others, rfl⟩, unchanged⟩
    exact ⟨⟨more :: outputs, .cons (eq_ok_of_mapError_eq_ok generated) others, rfl⟩, unchanged⟩

/-! ### Delivery -/

/-- The code is in the file that was asked for, and nothing is printed; or it is printed, and all
files are as they were. -/
inductive Placed (t : FileTree) (source : String) : Option String → String → FileTree → Prop
  | file {path : String} {t' : FileTree} (written : FileTree.IsWritten t path source t') :
    Placed t source (some path) "" t'
  | stdout : Placed t source none source t

/-- Everything could be read, every generator that was asked for has succeeded, and the code that
they make together is placed: all their lines, and below them all their contents. -/
def Delivered (t : FileTree) (a : Arguments) (stdout : String) (t' : FileTree) : Prop :=
  ∃ i outputs, inputs? t a = some i ∧
    List.Forall₂ (fun g o => i.generate g = .ok o) a.generators outputs ∧
      Output.IsFileOf outputs (outputs.foldl Output.merge .empty).source ∧
        Placed t (outputs.foldl Output.merge .empty).source a.out stdout t'

theorem goesThrough_emit {source : String} (h : source? t a = some source) :
    GoesThrough t a [.outputFile] (emit FileTree.access a.out source) (Placed t source a.out) := by
  cases out : a.out with
  | none =>
    refine ⟨fun f failed => ?_, fun _ => ⟨source, t, rfl, .stdout⟩⟩
    simp [Stage.failure?, out] at failed
  | some path =>
    have failure : Stage.failure? t a .outputFile =
        (error? (t.write path source)).map (.outputFile path) := by
      simp only [Stage.failure?, out, h, Option.bind_eq_bind, Option.bind_some]
    constructor
    · intro f failed
      rw [List.findSome?_singleton, failure] at failed
      cases written : t.write path source with
      | ok t' => rw [written] at failed; cases failed
      | error e =>
        rw [written] at failed
        cases failed
        rw [emit, run_liftM_bind (FileTree.run_write_error written)]
        rfl
    · intro passed
      rw [List.findSome?_singleton, failure] at passed
      cases written : t.write path source with
      | ok t' =>
        refine ⟨"", t', ?_, .file (FileTree.isWritten_of_write written)⟩
        rw [emit, run_liftM_bind (FileTree.run_write_ok written)]
        rfl
      | error e => rw [written] at passed; cases passed

/-! ### Whole runs -/

theorem goesThrough_execute (t : FileTree) (a : Arguments) :
    GoesThrough t a (Stage.all a) (execute FileTree.access a) (Delivered t a) := by
  have stages : Stage.all a = [Stage.schemaFile] ++ (([Stage.configFile] ++ [Stage.configText]) ++
      (([Stage.schemaText] ++ [Stage.schemaIntegrity]) ++ (a.documents.map Stage.documentFile ++
        (a.documents.map Stage.documentText ++ (a.generators.map Stage.generator ++
          [Stage.outputFile]))))) := by
    simp [Stage.all]
  rw [stages, execute]
  apply reads_schemaText.bind
  intro text hschema
  apply reads_loadOptions.bind
  intro options hoptions
  apply (reads_readSchema hschema).bind
  rintro schema ⟨sdl, hsdl, accepted⟩
  apply (reads_readFiles a.documents).bind
  intro texts htexts
  apply (reads_readDocuments htexts).bind
  intro documents hdocuments
  have given : inputs? t a = some ⟨schema, options, documents⟩ :=
    inputs?_eq_some hsdl accepted hoptions hdocuments
  apply (reads_runAll given a.generators .empty).bind
  rintro output ⟨outputs, generated, rfl⟩
  have made : a.generators.mapM (fun g => (Inputs.generate ⟨schema, options, documents⟩ g).toOption)
      = some outputs := mapM_eq_some (generated.imp fun g o h => toOption_eq_some_iff.mpr h)
  have source : source? t a = some (outputs.foldl Output.merge .empty).source := by
    rw [source?, given, Option.bind_eq_bind, Option.bind_some, made]
    rfl
  apply (goesThrough_emit source).imp
  intro stdout t' placed
  exact ⟨_, outputs, given, generated, Output.isFileOf_merged outputs, placed⟩

end Run

/-! ### The result -/

/-- What is reported of a run that fails: what is wrong with its arguments, or the failure at the
first stage that fails. -/
def report? (words : List String) (t : FileTree) : Option String :=
  match Arguments.parse words with
  | .error .help => none
  | .error refusal => some (refusal.message ++ "\n\n" ++ helpText ++ "\n")
  | .ok a => ((Stage.all a).findSome? (·.failure? t a)).map Failure.report

/-- What a run comes to, given its arguments and the files before it and after it. -/
structure AllOrNothing (words : List String) (t : FileTree) (outcome : Outcome) (t' : FileTree) :
    Prop where
  /-- A run that fails prints nothing and changes no file. -/
  failed : outcome.code ≠ 0 → outcome.stdout = "" ∧ t' = t
  /-- It fails exactly if there is something to report, and reports that. -/
  reported : ∀ report,
    report? words t = some report ↔ outcome.code ≠ 0 ∧ outcome.stderr = report
  /-- If it does not fail, what was asked for is delivered, unless it was help. -/
  delivered : outcome.code = 0 → Arguments.parse words ≠ .error .help →
    ∃ a, Arguments.parse words = .ok a ∧ Delivered t a outcome.stdout t'

/-- What a command line that was carried out leaves behind. -/
def Outcome.ofResult : Except Failure String → Outcome
  | .ok stdout => { code := 0, stdout }
  | .error failure => { code := 1, stderr := failure.report }

section Whole

variable {words : List String} {t t' : FileTree}

theorem run_help (h : Arguments.parse words = .error .help) :
    (run FileTree.access words).run t = ({ code := 0, stdout := helpText }, t) := by
  rw [run, h]
  rfl

theorem run_refused {refusal : Refusal} (h : Arguments.parse words = .error refusal)
    (other : refusal ≠ .help) : (run FileTree.access words).run t =
      ({ code := 1, stderr := refusal.message ++ "\n\n" ++ helpText ++ "\n" }, t) := by
  rw [run, h]
  cases refusal with
  | help => exact absurd rfl other
  | _ => rfl

theorem run_executed {a : Arguments} {r : Except Failure String}
    (h : Arguments.parse words = .ok a) (ran : (execute FileTree.access a).run.run t = (r, t')) :
    (run FileTree.access words).run t = (Outcome.ofResult r, t') := by
  rw [run, h]
  dsimp only
  rw [StateT.run_bind, ran]
  cases r <;> rfl

namespace AllOrNothing

/-- A run that ends with a report. -/
theorem of_report {report : String} (h : report? words t = some report) :
    AllOrNothing words t { code := 1, stderr := report } t where
  failed _ := ⟨rfl, rfl⟩
  reported other := by
    rw [h]
    simp
  delivered succeeded := by cases succeeded

/-- A run that ends without a report. -/
theorem of_none {stdout : String} (h : report? words t = none)
    (delivered : Arguments.parse words ≠ .error .help →
      ∃ a, Arguments.parse words = .ok a ∧ Delivered t a stdout t') :
    AllOrNothing words t { code := 0, stdout } t' where
  failed failed := absurd rfl failed
  reported other := by
    rw [h]
    simp
  delivered _ := delivered

end AllOrNothing

end Whole

/-- A run that fails reports the first stage that fails, prints nothing and leaves all files as they
are. A run that does not fail, and is not asked for help, delivers the code of all generators that
it was asked for: in full, at a single place. -/
theorem run_all_or_nothing (words : List String) (t : FileTree) :
    ∃ outcome t', (run FileTree.access words).run t = (outcome, t') ∧
      AllOrNothing words t outcome t' := by
  cases understood : Arguments.parse words with
  | error refusal =>
    by_cases help : refusal = .help
    · subst help
      have nothing : report? words t = none := by rw [report?, understood]
      exact ⟨_, t, run_help understood, .of_none nothing fun other => absurd understood other⟩
    · have report : report? words t =
          some (refusal.message ++ "\n\n" ++ helpText ++ "\n") := by
        rw [report?, understood]
        cases refusal with
        | help => exact absurd rfl help
        | _ => rfl
      exact ⟨_, t, run_refused understood help, .of_report report⟩
  | ok a =>
    have whole := goesThrough_execute t a
    have report : report? words t =
        ((Stage.all a).findSome? (·.failure? t a)).map Failure.report := by
      rw [report?, understood]
    cases first : (Stage.all a).findSome? (·.failure? t a) with
    | some failure =>
      rw [first] at report
      exact ⟨_, t, run_executed understood (whole.fails failure first), .of_report report⟩
    | none =>
      obtain ⟨stdout, t', passed, delivered⟩ := whole.passes first
      rw [first] at report
      exact ⟨_, t', run_executed understood passed,
        .of_none report fun _ => ⟨a, understood, delivered⟩⟩

end GraphTypes.CommandLine
