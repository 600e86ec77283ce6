import GraphTypes.Config.Settings
import GraphTypes.Schema.Basic

/-!
# Errors

Everything that can go wrong between the texts that go in and the code that comes out. Texts that do
not follow their grammar are told apart by what they should have been.
-/

namespace GraphTypes

/-- Why nothing was generated. -/
inductive Error where
  | config (cause : Config.ConfigError)
  | schema (cause : SchemaError)
  /-- The schema text does not follow its grammar. -/
  | malformedSchema
  /-- An operation document does not follow its grammar. -/
  | malformedDocument
  /-- The configuration text is not JSON, or not of the right form. -/
  | malformedConfig
  deriving DecidableEq, Repr

namespace Error

/-- The wording of an error. Of malformed texts it says no more than what they should have been. -/
def message : Error → String
  | config cause => "config error: " ++ cause.message
  | schema cause => "schema integrity error: " ++ cause.message
  | malformedSchema => "schema parse error:"
  | malformedDocument => "document parse error:"
  | malformedConfig => "json error:"

/-- Whether the configuration is to blame. -/
def isConfigError : Error → Bool
  | config _ | malformedConfig => true
  | _ => false

/-- Whether the schema, or a document read against it, is to blame. -/
def isSchemaError : Error → Bool
  | schema _ | malformedSchema => true
  | _ => false

end Error

/-- What may fail with an `Error`. -/
abbrev Result (α : Type) := Except Error α

end GraphTypes
