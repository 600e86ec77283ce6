import GraphTypes.CommandLine.Arguments
import GraphTypes.CommandLine.Files
import GraphTypes.CommandLine.Help
import GraphTypes.CommandLine.Url

/-!
# Carrying out a command line

A run reads the schema, the configuration and the documents, generates code, and writes it to a file
or prints it. The first thing that goes wrong ends the run, and then nothing has been written or
printed but the report. All that a run does to files goes through a `FileAccess`.
-/

namespace GraphTypes.CommandLine

open Config

/-- Why a run ended without generated code. -/
inductive Failure where
  /-- The file of the schema cannot be read. -/
  | schemaFile (path : String) (cause : FileError)
  /-- The schema cannot be had from an address. -/
  | schemaUrl (cause : UrlError)
  /-- The file of the configuration or of a document cannot be read. -/
  | inputFile (path : String) (cause : FileError)
  | malformedConfig
  | malformedSchema
  /-- The schema is not well formed. -/
  | schema (cause : SchemaError)
  | malformedDocument (path : String)
  | generator (generator : Generator) (cause : Error)
  /-- The code cannot be written to its file. -/
  | outputFile (path : String) (cause : FileError)
  deriving DecidableEq, Repr

/-- The line that reports a failure. What a malformed text lacks is left open, and the line with
it. -/
def Failure.report : Failure → String
  | schemaFile path cause =>
    "failed to load schema: failed to read " ++ path ++ ": " ++ cause.message ++ "\n"
  | schemaUrl cause => "failed to load schema: " ++ cause.message ++ "\n"
  | inputFile path cause =>
    "codegen failed: failed to read " ++ path ++ ": " ++ cause.message ++ "\n"
  | malformedConfig => "codegen failed: " ++ Error.malformedConfig.message
  | malformedSchema => "codegen failed: failed to parse schema:"
  | schema cause => "codegen failed: " ++ (Error.schema cause).message ++ "\n"
  | malformedDocument path => "codegen failed: failed to parse " ++ path ++ ":"
  | generator g cause => "codegen failed: " ++ g.name ++ " plugin: " ++ cause.message ++ "\n"
  | outputFile path cause =>
    "codegen failed: failed to write " ++ path ++ ": " ++ cause.message ++ "\n"

/-- What a run leaves behind, besides files. -/
structure Outcome where
  code : Nat
  stdout : String := ""
  stderr : String := ""
  deriving DecidableEq, Repr

section Steps

variable {m : Type → Type} [Monad m] (files : FileAccess m)

/-- Reads a file; a failure is reported as `failure` says. -/
def readFile (failure : FileError → Failure) (path : String) : ExceptT Failure m String := do
  match ← files.read path with
  | .ok text => return text
  | .error e => throw (failure e)

/-- Reads several files in order. -/
def readFiles : List String → ExceptT Failure m (List String)
  | [] => return []
  | path :: rest => do
    let text ← readFile files (.inputFile path) path
    return text :: (← readFiles rest)

/-- The text of the schema. A file counts before an address. -/
def schemaText (a : Arguments) : ExceptT Failure m String :=
  match a.schema with
  | some path => readFile files (.schemaFile path) path
  | none => throw (.schemaUrl (refuseEndpoint (a.url.getD "")))

/-- The options; all are at their defaults if no configuration is given. -/
def loadOptions (a : Arguments) : ExceptT Failure m Options :=
  match a.config with
  | none => return {}
  | some path => do
    match Options.ofText? (← readFile files (.inputFile path) path) with
    | some options => return options
    | none => throw .malformedConfig

/-- Writes generated code to its file; without a file it is what the run prints. -/
def emit (out : Option String) (source : String) : ExceptT Failure m String :=
  match out with
  | none => return source
  | some path => do
    match ← files.write path source with
    | .ok () => return ""
    | .error e => throw (.outputFile path e)

end Steps

/-- The schema that a text declares. -/
def readSchema (text : String) : Except Failure Schema :=
  match Sdl.Document.ofText? text with
  | none => .error .malformedSchema
  | some doc => (Schema.ofDocument doc).mapError .schema

/-- The definitions of documents, each given by its path and its text. -/
def readDocuments : List (String × String) → Except Failure (List Operation.Document)
  | [] => .ok []
  | (path, text) :: rest =>
    match Operation.Document.ofText? text with
    | none => .error (.malformedDocument path)
    | some doc => (readDocuments rest).map (doc :: ·)

/-- The generated code. -/
def generate (s : Schema) (documents : List Operation.Document) (options : Options)
    (generators : List Generator) : Except Failure Output :=
  (Generator.runAll s documents options .empty generators).mapError fun (g, e) => .generator g e

/-- Does what the arguments ask for; yields what is printed. -/
def execute {m : Type → Type} [Monad m] (files : FileAccess m) (a : Arguments) :
    ExceptT Failure m String := do
  let text ← schemaText files a
  let options ← loadOptions files a
  let schema ← ExceptT.mk (pure (readSchema text))
  let texts ← readFiles files a.documents
  let documents ← ExceptT.mk (pure (readDocuments (a.documents.zip texts)))
  let output ← ExceptT.mk (pure (generate schema documents options a.generators))
  emit files a.out output.source

/-- Carries out a command line. -/
def run {m : Type → Type} [Monad m] (files : FileAccess m) (words : List String) : m Outcome := do
  match Arguments.parse words with
  | .error .help => return { code := 0, stdout := helpText }
  | .error refusal => return { code := 1, stderr := refusal.message ++ "\n\n" ++ helpText ++ "\n" }
  | .ok a =>
    match ← (execute files a).run with
    | .ok stdout => return { code := 0, stdout }
    | .error failure => return { code := 1, stderr := failure.report }

end GraphTypes.CommandLine
