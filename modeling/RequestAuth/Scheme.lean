import RequestAuth.Value.Access
import RequestAuth.Value.Order

/-!
# Security schemes

The ways of authentication that a service description declares, by name: API keys, HTTP
authentication, OAuth 2.0 and OpenID Connect. Names, places and other fields are kept as they are
written, whatever their kind; only the place of an API key is turned into a text.
-/

namespace RequestAuth

/-- A way to obtain an OAuth 2.0 token, as it is declared. -/
structure Flow where
  /-- The name of the flow. -/
  type : Value
  /-- Where tokens are obtained. -/
  tokenUrl : Value
  /-- Where the user is asked for authorization. -/
  authorizationUrl : Value
  /-- Where tokens are refreshed. -/
  refreshUrl : Value
  /-- The scopes with their descriptions. -/
  scopes : List (Value × Value)

/-- What a scheme is, with the fields of its type. -/
inductive Scheme.Kind where
  /-- A key sent in a header, the query or a cookie. -/
  | apiKey (location parameterName : Value)
  /-- HTTP authentication of some sub-scheme. -/
  | http (subscheme bearerFormat : Value)
  /-- A token of OAuth 2.0, with the declared flows by name. -/
  | oauth2 (flows : List (Value × Flow))
  /-- OpenID Connect, for which no credentials can be built. -/
  | openIdConnect (url : Value)

/-- A declared security scheme. -/
structure Scheme where
  /-- The name under which it is declared. -/
  name : Value
  /-- The description. -/
  description : Value
  /-- What it is. -/
  kind : Scheme.Kind

/-- The word for the type of a scheme. -/
def Scheme.Kind.word : Scheme.Kind → String
  | .apiKey .. => "apiKey"
  | .http .. => "http"
  | .oauth2 _ => "oauth2"
  | .openIdConnect _ => "openIdConnect"

/-- The declared schemes by name, in the order of the document. -/
abbrev Registry := List (Value × Scheme)

namespace Registry

/-- The scheme of a name. -/
def find? (r : Registry) (name : Value) : Option Scheme := List.lookup name r

/-- Whether there is a scheme of a name. What cannot be a name is a fault. -/
def contains (r : Registry) (name : Value) : Except Fault Bool :=
  if name.isKey then .ok (r.find? name).isSome else .error .typeMismatch

/-- The scheme of a name; that there is none is a fault. -/
def lookup (r : Registry) (name : Value) : Except Fault Scheme :=
  if !name.isKey then .error .typeMismatch
  else match r.find? name with
  | some s => .ok s
  | none => do throw (.schemeUnknown (← name.written))

/-- The names in ascending order, as they are shown. -/
def shown (r : Registry) : Except Fault String := do
  let names ← Value.sorted (r.map Prod.fst)
  return "SchemeRegistry(" ++ (← (Value.list names).written) ++ ")"

end Registry

end RequestAuth
