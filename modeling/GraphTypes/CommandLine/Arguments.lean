import GraphTypes.Generator

/-!
# Command-line arguments

An argument list is a sequence of flags, each followed by its value; the value may look like
anything, even like a flag. Of a flag given several times the last counts, but documents add up. A
flag at the very end without a value takes back what it gave before.
-/

namespace GraphTypes.CommandLine

/-- What a command line asks for. -/
structure Arguments where
  url : Option String := none
  schema : Option String := none
  documents : List String := []
  config : Option String := none
  generators : List Generator := [.types, .resolvers]
  out : Option String := none
  deriving DecidableEq, Repr

/-- Why a command line is not carried out. -/
inductive Refusal where
  /-- Help was asked for. -/
  | help
  | unknownGenerator (name : String)
  /-- The flag for the generator is the last argument. -/
  | missingGenerator
  | unknownArgument (text : String)
  /-- Neither a file nor an address of a schema is given. -/
  | missingSchema
  deriving DecidableEq, Repr

/-- The wording of a refusal. -/
def Refusal.message : Refusal → String
  | help => ""
  | unknownGenerator name => "unknown plugin: " ++ name
  | missingGenerator => "--plugin needs a value"
  | unknownArgument text => "unknown argument: " ++ text
  | missingSchema => "--url or --schema is required"

/-- The flags that take a value. -/
inductive Flag where
  | url
  | schema
  | document
  | config
  | plugin
  | out
  deriving DecidableEq, Repr

/-- The flag that a word spells. -/
def Flag.ofText? : String → Option Flag
  | "--url" => some url
  | "--schema" => some schema
  | "--document" => some document
  | "--config" => some config
  | "--plugin" => some plugin
  | "--out" => some out
  | _ => none

/-- The generators that the value of a flag selects. -/
def generatorsOf? : String → Option (List Generator)
  | "types" => some [.types]
  | "resolvers" => some [.resolvers]
  | "all" => some [.types, .resolvers]
  | _ => none

namespace Arguments

/-- Takes in a flag with its value, or with none at the end of the arguments. -/
def set (a : Arguments) (flag : Flag) (value : Option String) : Except Refusal Arguments :=
  match flag with
  | .url => .ok { a with url := value }
  | .schema => .ok { a with schema := value }
  | .document => .ok { a with documents := a.documents ++ value.toList }
  | .config => .ok { a with config := value }
  | .out => .ok { a with out := value }
  | .plugin =>
    match value with
    | none => .error .missingGenerator
    | some name =>
      match generatorsOf? name with
      | some generators => .ok { a with generators }
      | none => .error (.unknownGenerator name)

/-- Why a word that is no flag is refused. -/
def refuse (word : String) : Refusal :=
  if word = "--help" ∨ word = "-h" then .help else .unknownArgument word

/-- Takes in flags and values from left to right, up to the first that is refused. -/
def scan (a : Arguments) : List String → Except Refusal Arguments
  | [] => .ok a
  | word :: rest =>
    match Flag.ofText? word, rest with
    | none, _ => .error (refuse word)
    | some flag, [] => a.set flag none
    | some flag, value :: rest =>
      match a.set flag (some value) with
      | .ok a => scan a rest
      | .error e => .error e

/-- The meaning of a command line. A schema must come from somewhere. -/
def parse (words : List String) : Except Refusal Arguments :=
  match scan {} words with
  | .error e => .error e
  | .ok a => if a.url.isNone && a.schema.isNone then .error .missingSchema else .ok a

end Arguments

end GraphTypes.CommandLine
