import GraphTypes.Error
import GraphTypes.Operation.Reader
import GraphTypes.Sdl.Reader

/-!
# Reading the input

The texts that generated code is made from, each read into what it means, with an error if it cannot
be.
-/

namespace GraphTypes

/-- The schema that a text declares. -/
def Schema.ofText (text : String) : Result Schema :=
  match Sdl.Document.ofText? text with
  | some doc => (Schema.ofDocument doc).mapError .schema
  | none => .error .malformedSchema

/-- The definitions of an operation document. -/
def Operation.Document.ofText (text : String) : Result Operation.Document :=
  match Operation.Document.ofText? text with
  | some doc => .ok doc
  | none => .error .malformedDocument

/-- The options that a configuration text gives. -/
def Config.Options.ofText (text : String) : Result Config.Options :=
  match Config.Options.ofText? text with
  | some options => .ok options
  | none => .error .malformedConfig

/-- The checked form of options. -/
def Config.Options.settings (options : Config.Options) : Result Config.Settings :=
  options.resolve.mapError .config

end GraphTypes
