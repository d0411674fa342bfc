import RequestAuth.Credential
import RequestAuth.Config
import RequestAuth.Scheme
import RequestAuth.Requirement
import RequestAuth.Text.Form

/-!
# Building credentials

Credentials for a scheme are built from the configuration, and for OAuth 2.0 from a token. A
requirement is satisfied by the credentials of all its schemes together; one for which something is
not configured or not supported is unsatisfiable, which is an outcome and no fault. A token that
cannot be fetched is a fault.

Where tokens come from is left open: a `Bearer` gives an access token and may change a state.
-/

namespace RequestAuth

/-- A source of access tokens with a state of its own. -/
abbrev Bearer (τ : Type) := τ → Except Fault Value × τ

/-- What comes of trying to build credentials. -/
inductive Outcome where
  /-- They are built. -/
  | satisfied (c : Credential)
  /-- They cannot be built, for a cause. -/
  | unsatisfiable (cause : Fault)

/-- The outcome that a result is, unless it is a fault that ends everything. -/
def Outcome.ofResult : Except Fault Credential → Except Fault Outcome
  | .ok c => .ok (.satisfied c)
  | .error fault => if fault.isUnsatisfiable then .ok (.unsatisfiable fault) else .error fault

/-- The value of the authorization header for a token. -/
def bearerHeader (access : Value) : String := "Bearer " ++ access.toText

/-- The credential that is one authorization header. -/
def authorization (value : String) : Credential := ⟨[(.text "Authorization", value)], [], []⟩

/-- The value of the authorization header for a user and a password, from the name of the sub-scheme
and the word that the header begins with. -/
def basicHeader (name word : String) (username password : Option String) : Except Fault String :=
  let method := name ++ " authentication"
  match username, password with
  | none, _ => .error (.settingMissing method "username")
  | some _, none => .error (.settingMissing method "password")
  | some user, some secret => .ok (word ++ " " ++ basicCredentials user secret)

/-- The value of the authorization header for a user and a password. -/
def httpHeader (subscheme : String) (username password : Option String) : Except Fault String :=
  basicHeader subscheme (capitalizeText subscheme) username password

/-- The same for a sub-scheme that is named by bytes, which are shown as such. -/
def bytesHeader (subscheme : List UInt8) (username password : Option String) :
    Except Fault String :=
  basicHeader (Value.bytes subscheme).shown
    (Value.bytes (Text.capitalizeBytes subscheme)).shown username password

namespace Config

/-- The API key of a name. -/
def apiKey (c : Config) (name : Value) : Except Fault String :=
  if c.apiKeys.isEmpty then
    match c.apiKeyValue with
    | some v => .ok v
    | none => .error (.settingMissing "API Key authentication method" "api_key_value")
  else if !name.isKey then .error .typeMismatch
  else
    match name.text?.bind fun n => c.apiKeys.lookup n with
    | some v => .ok v
    | none => do throw (.keyMissing (← name.written))

/-- The name of the API key of a scheme: the declared one, or the configured one. -/
def apiKeyNameFor (c : Config) (parameterName : Value) : Except Fault Value :=
  if parameterName.isTrue then .ok parameterName
  else
    match c.apiKeyName with
    | some name => .ok (.text name)
    | none => .error (.settingMissing "API Key authentication method" "api_key_name")

/-- The credential that sends a key in a place. -/
def keyAt (location name : Value) (key : String) : Except Fault Credential :=
  match location.orElse (.text "") with
  | .text place =>
    let place := lowerText place
    if place == "header" then .ok ⟨[(name, key)], [], []⟩
    else if place == "cookie" then do return ⟨[], [], [Form.pair (← name.written) key]⟩
    else if place == "query" then do return ⟨[], [Form.pair (← name.written) key], []⟩
    else do throw (.locationUnsupported (← location.written))
  | _ => .error .memberMissing

/-- The credential for an API key. -/
def apiKeyCredential (c : Config) (location parameterName : Value) : Except Fault Credential := do
  let name ← c.apiKeyNameFor parameterName
  let key ← c.apiKey name
  keyAt location name key

/-- The credential for an HTTP sub-scheme: the declared one, or the configured one. -/
def httpCredential (c : Config) (subscheme : Value) : Except Fault Credential :=
  match subscheme.orElse (Value.ofText? c.authenticationScheme) with
  | .text name =>
    if name.isEmpty then .error (.settingMissing "HTTP authentication" "authentication_scheme")
    else if upperText name == "BEARER" then
      match c.bearerToken with
      | some token => .ok (authorization (bearerHeader (.text token)))
      | none => .error (.settingMissing "Bearer authentication" "bearer_token")
    else (httpHeader name c.username c.password).map authorization
  | .null => .error (.settingMissing "HTTP authentication" "authentication_scheme")
  | .bytes name => (bytesHeader name c.username c.password).map authorization
  | _ => .error .memberMissing

end Config

/-- What credentials are built from: the configuration, the declared schemes and a source of tokens,
if there is one. -/
structure Keyring (τ : Type) where
  /-- The configuration. -/
  config : Config
  /-- The declared schemes. -/
  schemes : Registry
  /-- Where tokens come from. -/
  bearer : Option (Bearer τ)

namespace Keyring

variable {τ : Type}

/-- The credential that is a token. -/
def token (k : Keyring τ) (t : τ) : Except Fault Credential × τ :=
  match k.bearer with
  | none => (.error .tokenSourceMissing, t)
  | some bearer =>
    match bearer t with
    | (.ok access, t) => (.ok (authorization (bearerHeader access)), t)
    | (.error fault, t) => (.error fault, t)

/-- The credential for a scheme. -/
def build (k : Keyring τ) (scheme : Scheme) (t : τ) : Except Fault Credential × τ :=
  match scheme.kind with
  | .apiKey location parameterName => (k.config.apiKeyCredential location parameterName, t)
  | .http subscheme _ => (k.config.httpCredential subscheme, t)
  | .oauth2 _ => k.token t
  | .openIdConnect _ => (.error (.schemeUnsupported scheme.kind.word), t)

/-- The credential for the scheme of a name. -/
def buildNamed (k : Keyring τ) (name : Value) (t : τ) : Except Fault Credential × τ :=
  match k.schemes.lookup name with
  | .ok scheme => k.build scheme t
  | .error fault => (.error fault, t)

/-- The credentials for the schemes of some names, behind those gathered before. -/
def gather (k : Keyring τ) : List Value → Credential → τ → Except Fault Credential × τ
  | [], c, t => (.ok c, t)
  | name :: names, c, t =>
    match k.buildNamed name t with
    | (.error fault, t) => (.error fault, t)
    | (.ok d, t) => gather k names (c.merge d) t

/-- The credentials for all schemes of a requirement. -/
def credential (k : Keyring τ) (r : Requirement) (t : τ) : Except Fault Credential × τ :=
  k.gather (r.map Prod.fst) .empty t

/-- The credential for the configured fallback. -/
def fallback (k : Keyring τ) (t : τ) : Except Fault Credential × τ :=
  match k.config.authenticationType with
  | .none => (.ok .empty, t)
  | .apiKey => (k.config.apiKeyCredential (.text "header") .null, t)
  | .http => (k.config.httpCredential .null, t)
  | .oauth => k.token t

/-- Try to build the credentials for a requirement. -/
def tryRequirement (k : Keyring τ) (r : Requirement) (t : τ) : Except Fault Outcome × τ :=
  let (result, t) := k.credential r t
  (Outcome.ofResult result, t)

/-- Try to build the credential for the configured fallback. -/
def tryFallback (k : Keyring τ) (t : τ) : Except Fault Outcome × τ :=
  let (result, t) := k.fallback t
  (Outcome.ofResult result, t)

/-- Stamp the credentials for a requirement onto a request. -/
def apply (k : Keyring τ) (r : Requirement) (request : Request) (t : τ) :
    Except Fault Unit × Request × τ :=
  match k.credential r t with
  | (.error fault, t) => (.error fault, request, t)
  | (.ok c, t) =>
    let (result, request) := c.stamp request
    (result, request, t)

end Keyring

end RequestAuth
