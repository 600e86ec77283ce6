import GraphTypes.Input
import GraphTypes.Output
import GraphTypes.Resolver.OfSchema

/-!
# Generators

The two kinds of code that can be generated for a schema: the types of its values, and the
signatures of its resolvers. The second refers to what the first declares, so both can stand in one
file.
-/

namespace GraphTypes

open Config

/-- A kind of generated code. -/
inductive Generator where
  | types
  | resolvers
  deriving DecidableEq, Repr

namespace Generator

/-- The name of a generator. -/
def name : Generator → String
  | types => "types"
  | resolvers => "resolvers"

/-- The types of a schema. If enums alone are asked for, nothing else is declared. -/
def runTypes (s : Schema) (documents : List Operation.Document) (options : Options) :
    Result Output := do
  let settings ← options.settings
  let declarations ← (declarations s documents settings).mapError Error.schema
  return {
    preamble := if settings.enumsOnly then [] else [settings.maybeDeclaration]
    content := String.intercalate "\n\n" (declarations.map (·.source settings.exportMark)) }

/-- The resolver signatures of a schema. -/
def runResolvers (s : Schema) (options : Options) : Result Output := do
  let settings ← options.settings
  let m ← (resolverModule s settings).mapError Error.schema
  return {
    preamble := m.imports.lines
    content := String.intercalate "\n\n" (m.sources settings.exportMark) }

/-- What a generator makes of a schema. Documents matter to the types alone. -/
def run (s : Schema) (documents : List Operation.Document) (options : Options) :
    Generator → Result Output
  | types => runTypes s documents options
  | resolvers => runResolvers s options

/-- Runs generators one after the other and merges what they yield behind an output; an error comes
with the generator that failed. -/
def runAll (s : Schema) (documents : List Operation.Document) (options : Options)
    (output : Output) : List Generator → Except (Generator × Error) Output
  | [] => .ok output
  | g :: rest =>
    match g.run s documents options with
    | .ok more => runAll s documents options (output.merge more) rest
    | .error e => .error (g, e)

end Generator

end GraphTypes
