import RequestAuth.Credential.Keyring
import RequestAuth.Document
import RequestAuth.Token.Endpoint
import RequestAuth.Token.Cache

/-!
# The authenticator

Every outbound request is matched with a declared operation, and the first of its alternatives that
can be satisfied is stamped onto it (`Authenticator.decorate`). If there is none, the configured
fallback is tried; failing that the request goes out as it is. Each request that passes through gets
a hook, which drops the token when the service answers that it does not accept it.

The operation of a request is named by a header of its own, or found by the path of its address
below the base address.
-/

namespace RequestAuth

/-- The header that names the declared path of a request. -/
def pathHeader : String := "X-OpenAPI-Path"

/-- What requests are authenticated with. -/
structure Authenticator where
  /-- The configuration. -/
  config : Config
  /-- What the service description says. -/
  security : Security
  /-- The path of the base address, without slashes at its end. -/
  basePath : List Char

/-- What comes of decorating a request. The request is given back in any case. -/
structure Decoration (τ : Type) where
  /-- The notices, or a fault. -/
  result : Except Fault (List Notice)
  /-- The request afterwards. -/
  request : Request
  /-- The state of the token source afterwards. -/
  state : τ

/-- The values that the client of a configuration asks for tokens with. -/
def Config.client (c : Config) : Client :=
  ⟨c.tokenEndpoint, c.clientId, c.clientSecret, c.grantType, c.baseUri, c.username, c.password,
    c.tokenTimeout⟩

/-- Whether a text is given and has characters. -/
def isFilled (s : Option String) : Bool := s.any (!·.isEmpty)

/-- The path of the base address, without slashes at its end. -/
def readBasePath (baseUri : Option String) : Except Fault (List Char) :=
  match baseUri.filter (!·.isEmpty) with
  | none => .ok []
  | some uri => do
    let u ← Url.split uri.toList
    return (u.path.reverse.dropWhile (· == '/')).reverse

/-- The part of a path below the base path, or the path itself when it is not below. -/
def belowBase (base path : List Char) : List Char :=
  if base.isEmpty then path
  else if path == base || (base ++ ['/']).isPrefixOf path then
    let rest := path.drop base.length
    if rest.isEmpty then ['/'] else rest
  else path

namespace Authenticator

variable {τ : Type}

/-- The authenticator of a configuration and a service description, and the interval at which the
token is renewed, if it is. -/
def start (config : Config) (security : Security) :
    Except Fault (Authenticator × Option Value) := do
  let basePath ← readBasePath config.baseUri
  let renews ← config.renewalInterval.isPositive
  let interval :=
    if renews && isFilled config.grantType && isFilled config.tokenEndpoint then
      some config.renewalInterval
    else none
  return (⟨config, security, basePath⟩, interval)

/-- What credentials are built from, with a source of tokens. -/
def keyring (a : Authenticator) (bearer : Bearer τ) : Keyring τ :=
  ⟨a.config, a.security.schemes, some bearer⟩

/-- The credentials of the first alternative that can be satisfied, if there is one. The names in an
alternative that is tried have to be of one kind. -/
def firstSatisfiable (k : Keyring τ) : List Requirement → τ → Except Fault (Option Credential) × τ
  | [], t => (.ok none, t)
  | r :: rest, t =>
    match k.tryRequirement r t with
    | (.error fault, t) => (.error fault, t)
    | (.ok outcome, t) =>
      match Value.sorted (r.map Prod.fst), outcome with
      | .error fault, _ => (.error fault, t)
      | .ok _, .satisfied c => (.ok (some c), t)
      | .ok _, .unsatisfiable _ => firstSatisfiable k rest t

/-- The credentials of the fallback, if it is configured and can be built, and the notices.
`described` says which operation is meant, and `required` whether it has alternatives. -/
def fallbackFor (k : Keyring τ) (required : Bool) (described : String) (t : τ) :
    Except Fault (Option Credential × List Notice) × τ :=
  if k.config.authenticationType = .none then
    let text := s!"No security requirement satisfiable for {described}, sending unauthenticated"
    (.ok (none, if required then [.warn [.text text]] else []), t)
  else
    match k.tryFallback t with
    | (.error fault, t) => (.error fault, t)
    | (.ok (.satisfied c), t) => (.ok (some c, []), t)
    | (.ok (.unsatisfiable cause), t) =>
      let type := k.config.authenticationType.word
      let reason := cause.message
      let text := s!"Default {type} authentication unavailable for {described}: {reason}"
      (.ok (none, [.warn [.text text]]), t)

/-- The credentials for an operation, if any, and the notices. -/
def choose (k : Keyring τ) (alternatives : List Requirement) (described : String) (t : τ) :
    Except Fault (Option Credential × List Notice) × τ :=
  match firstSatisfiable k alternatives t with
  | (.error fault, t) => (.error fault, t)
  | (.ok (some c), t) => (.ok (some c, []), t)
  | (.ok none, t) => fallbackFor k (!alternatives.isEmpty) described t

/-- Add the credentials of an operation to a request. Without a method the request's own counts. -/
def decorate (a : Authenticator) (bearer : Bearer τ) (request : Request)
    (path method : Option String) (t : τ) : Decoration τ :=
  let method := (method.filter (!·.isEmpty)) <|> request.method
  match a.security.table.resolve path method with
  | .error fault => ⟨.error fault, request, t⟩
  | .ok alternatives =>
    let described := method.getD "" ++ " " ++ path.getD ""
    match choose (a.keyring bearer) alternatives described t with
    | (.error fault, t) => ⟨.error fault, request, t⟩
    | (.ok (none, notices), t) => ⟨.ok notices, request, t⟩
    | (.ok (some c, notices), t) =>
      let (result, request) := c.stamp request
      ⟨result.map fun _ => notices, request, t⟩

/-- The declared path of a request, or the path of its address when none matches. -/
def operationPath (a : Authenticator) (request : Request) : Except Fault String :=
  match (request.header? pathHeader).filter (!·.isEmpty) with
  | some declared => .ok declared
  | none => do
    let u ← Url.split request.url.toList
    let path := String.ofList (belowBase a.basePath u.path)
    return ((a.security.table.matchPath path request.method).filter (!·.isEmpty)).getD path

/-- Add the credentials of its operation to a request, and a hook for the response. -/
def authenticate (a : Authenticator) (bearer : Bearer τ) (request : Request) (t : τ) :
    Decoration τ :=
  match a.operationPath request with
  | .error fault => ⟨.error fault, request, t⟩
  | .ok path =>
    let d := a.decorate bearer request (some path) none t
    match d.result with
    | .error _ => d
    | .ok _ => { d with request := d.request.withHook }

end Authenticator

/-- Access tokens from a cache that fetches them from an endpoint. The clock is read once for all
the tokens that are asked for. -/
def cachedBearer {σ : Type} (client : Client) (endpoint : Endpoint σ) (now : Instant) :
    Bearer (Cache × σ) :=
  fun (c, s) =>
    match c.obtain (client.authenticate endpoint) false now s with
    | (.ok t, c, s) => (.ok t.access, c, s)
    | (.error fault, c, s) => (.error fault, c, s)

end RequestAuth
