import GraphTypes.Name.Words
import GraphTypes.Text.Casing

/-!
# Case conventions

How a GraphQL name is spelled as a TypeScript identifier. A convention converts the name without its
leading underscores and puts them back in front, so `__Type` stays recognisable as a reflection type
under every convention.
-/

namespace GraphTypes.Name

open GraphTypes.Text

/-- The spellings a configuration can ask for. -/
inductive Convention where
  | keep
  | pascalCase
  | camelCase
  | constantCase
  | snakeCase
  | upperCase
  | lowerCase
  deriving DecidableEq, Repr

namespace Convention

/-- All conventions with the name each has in a configuration. -/
def named : List (String × Convention) :=
  [("keep", keep), ("pascalCase", pascalCase), ("camelCase", camelCase),
    ("constantCase", constantCase), ("snakeCase", snakeCase), ("upperCase", upperCase),
    ("lowerCase", lowerCase)]

/-- A text without `lead` at its front; the text itself if it begins otherwise. -/
def withoutLead (lead text : List Char) : List Char :=
  if lead.isPrefixOf text then text.drop lead.length else text

/-- The convention a configuration names, either plainly or as `change-case#` followed by the
name. -/
def ofName? (name : String) : Option Convention :=
  named.lookup (String.ofList (withoutLead "change-case#".toList name.toList))

/-- A name of several words with an underscore between each two. -/
def underscored (words : List (List Char)) : List Char := ['_'].intercalate words

/-- The spelling of a name that has no leading underscore. -/
def convert (body : List Char) : Convention → List Char
  | keep => body
  | upperCase => toUpper body
  | lowerCase => toLower body
  | pascalCase => (words body).flatMap capitalize
  | camelCase =>
    match words body with
    | [] => []
    | first :: others => toLower first ++ others.flatMap capitalize
  | constantCase => underscored ((words body).map toUpper)
  | snakeCase => underscored ((words body).map toLower)

/-- The spelling of a name: leading underscores stay, the rest is converted. -/
def applyChars (convention : Convention) (name : List Char) : List Char :=
  name.takeWhile (· == '_') ++ convention.convert (name.dropWhile (· == '_'))

/-- The spelling of a name: leading underscores stay, the rest is converted. -/
def apply (convention : Convention) (name : String) : String :=
  String.ofList (convention.applyChars name.toList)

end Convention

/-- The spelling of names that are built from field names, whatever the configuration says. -/
def pascalCase (name : String) : String := Convention.pascalCase.apply name

end GraphTypes.Name
