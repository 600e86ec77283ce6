/-!
# Addresses of schemas

A schema may be named by the address of a service, below which its text is expected. The scheme of
an address is all that is looked at here, since nothing is fetched.
-/

namespace GraphTypes.CommandLine

/-- Why an address cannot be used. -/
inductive UrlError where
  | noScheme (address : String)
  | unsupportedScheme (scheme : String)
  /-- The address is fine, but there is no network to fetch from. -/
  | noNetwork (address : String)
  deriving DecidableEq, Repr

/-- The wording of an error. -/
def UrlError.message : UrlError → String
  | noScheme address => "invalid url " ++ address ++ ": relative URL without a base"
  | unsupportedScheme scheme => "unsupported url scheme: " ++ scheme
  | noNetwork address => "no network to fetch " ++ address ++ " from"

/-- The address of the schema of a service. -/
def schemaAddress (endpoint : String) : List Char :=
  (endpoint.toList.reverse.dropWhile (· == '/')).reverse ++ "/schema.graphql".toList

/-- A character that a scheme can hold behind its first letter. -/
def inScheme (c : Char) : Bool := c.isAlphanum || c == '+' || c == '-' || c == '.'

/-- The scheme of an address in small letters. Control characters and blanks in front of the
address, and tabs and line ends within it, do not count. -/
def scheme? (address : List Char) : Option String :=
  let address := (address.dropWhile fun c => c.toNat ≤ 0x20).filter fun c =>
    c != '\t' && c != '\n' && c != '\r'
  match address with
  | [] => none
  | c :: rest =>
    if c.isAlpha && (rest.dropWhile inScheme).head? == some ':' then
      some (String.ofList ((c :: rest.takeWhile inScheme).map Char.toLower))
    else none

/-- Why the schema of a service cannot be had. -/
def refuseEndpoint (endpoint : String) : UrlError :=
  match scheme? (schemaAddress endpoint) with
  | none => .noScheme endpoint
  | some scheme =>
    if scheme = "http" ∨ scheme = "https" then .noNetwork (String.ofList (schemaAddress endpoint))
    else .unsupportedScheme scheme

end GraphTypes.CommandLine
