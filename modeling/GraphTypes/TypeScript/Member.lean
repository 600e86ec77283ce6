import GraphTypes.TypeScript.Comment
import GraphTypes.TypeScript.Type

/-!
# Members

The lines inside the braces of a declaration: the members of records and of enums, each after its
doc comment. They are kept as lines without indentation, since the same record can stand at the top
of a file or inside a namespace.
-/

namespace GraphTypes.TypeScript

/-- A member of a record. -/
structure Member where
  description : Option String
  name : String
  readonly : Bool
  /-- Whether the member carries the mark `?`. -/
  optional : Bool
  type : Ty
  deriving DecidableEq, Repr

/-- A member without its doc comment. -/
def Member.signature (m : Member) : String :=
  (if m.readonly then "readonly " else "") ++ m.name ++ (if m.optional then "?" else "") ++ ": "
    ++ m.type.text ++ ";"

/-- The lines of a member. -/
def Member.lines (m : Member) : List String := commentLines m.description ++ [m.signature]

/-- A member of an enum. -/
structure EnumMember where
  description : Option String
  identifier : String
  value : String
  deriving DecidableEq, Repr

/-- The lines of a member of an enum. -/
def EnumMember.lines (m : EnumMember) : List String :=
  commentLines m.description ++ [m.identifier ++ " = \"" ++ m.value ++ "\","]

/-- Several types of which a value may have any. There is none to choose from an empty list. -/
def alternatives (types : List String) : String :=
  if types.isEmpty then "never" else String.intercalate " | " types

/-- A string literal for a GraphQL name. -/
def literal (name : String) : String := "\"" ++ name ++ "\""

end GraphTypes.TypeScript
