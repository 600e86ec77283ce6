import GraphTypes.Text.Line

/-!
# References to TypeScript types

What a configuration may put in place of a generated type: an expression written out in full, such
as `Partial<{T}>`, or `module#Symbol<Arguments>`, a symbol to be imported. `Reference.parse` reads
either; the first `#` decides.
-/

namespace GraphTypes.Config

open GraphTypes.Text

/-- A symbol of another module, applied to type arguments. -/
structure ExternalRef where
  modulePath : String
  symbol : String
  /-- The arguments with the angle brackets around them; nothing if there are none. -/
  typeArguments : String
  deriving DecidableEq, Repr

/-- A TypeScript type that the configuration names. -/
inductive Reference where
  /-- An expression that is used as it stands. -/
  | inline (text : String)
  | external (ref : ExternalRef)
  deriving DecidableEq, Repr

/-- The symbol to import for a reference, if it needs one. -/
def Reference.external? : Reference → Option ExternalRef
  | .inline _ => none
  | .external ref => some ref

/-- Why a text is no reference. All but the first cause hold the text. -/
inductive ReferenceError where
  | empty
  | missingModule (text : String)
  | invalidSymbol (text : String)
  /-- The type arguments do not end in `>`. -/
  | unbalanced (text : String)
  deriving DecidableEq, Repr

/-- The wording of an error. -/
def ReferenceError.message : ReferenceError → String
  | empty => "empty type reference"
  | missingModule text => "type reference `" ++ text ++ "` is missing a module path"
  | invalidSymbol text => "type reference `" ++ text ++ "` is missing a valid symbol name"
  | unbalanced text => "type reference `" ++ text ++ "` has unbalanced type arguments"

/-- A character that a TypeScript identifier can hold. -/
def inIdentifier (c : Char) : Bool := isAlphanumeric c || c == '_' || c == '$'

/-- Whether a text is an identifier. Its first character is no digit. -/
def isIdentifier : List Char → Bool
  | [] => false
  | c :: rest => (isAlphabetic c || c == '_' || c == '$') && rest.all inIdentifier

namespace Reference

/-- Reads a reference that has no white space at its ends. -/
def parseTrimmed (text : List Char) : Except ReferenceError Reference :=
  match cutAt '#' text with
  | none => if text.isEmpty then .error .empty else .ok (.inline (String.ofList text))
  | some (modulePath, rest) =>
    let modulePath := trimChars modulePath
    let symbol := rest.takeWhile (· != '<')
    let typeArguments := rest.dropWhile (· != '<')
    if modulePath.isEmpty then .error (.missingModule (String.ofList text))
    else if !isIdentifier symbol then .error (.invalidSymbol (String.ofList text))
    else if !typeArguments.isEmpty && typeArguments.getLast? != some '>' then
      .error (.unbalanced (String.ofList text))
    else
      .ok (.external
        { modulePath := String.ofList modulePath
          symbol := String.ofList symbol
          typeArguments := String.ofList typeArguments })

/-- Reads a reference; white space at its ends does not belong to it. -/
def parse (text : String) : Except ReferenceError Reference := parseTrimmed (trimChars text.toList)

end Reference

end GraphTypes.Config
