import RequestAuth.Token
import RequestAuth.Text.Form
import RequestAuth.Url
import RequestAuth.Json.Reader

/-!
# The token endpoint

Obtaining a token with the credentials of a client: one request is built from the configured values
(`Client.request`), and its reply is either a token or a fault (`concludeReply`). A reply whose
status is no success never gives a token. The endpoint itself is a function from requests to replies
that may change a state of its own.
-/

namespace RequestAuth

/-- The values that a client asks for tokens with. -/
structure Client where
  /-- The address of the endpoint, or a path below the base. -/
  tokenEndpoint : Option String
  /-- The name of the client. -/
  clientId : Option String
  /-- The secret of the client. -/
  clientSecret : Option String
  /-- The grant type. -/
  grantType : Option String
  /-- The base that a path is below. -/
  baseUri : Option String
  /-- The user on whose behalf the token is asked for. -/
  username : Option String
  /-- The user's password. -/
  password : Option String
  /-- The seconds that a request may take. -/
  timeout : Value

/-- A request for a token. -/
structure TokenRequest where
  /-- Where it goes. -/
  url : String
  /-- The form that is sent. -/
  body : String
  /-- The name and the secret of the client, encoded. -/
  credentials : String
  /-- The seconds that it may take. -/
  timeout : Value

/-- The headers of a request for a token. -/
def TokenRequest.headers (r : TokenRequest) : List (String × String) :=
  [("Content-Type", "application/x-www-form-urlencoded"),
    ("Authorization", "Basic " ++ r.credentials)]

/-- What comes of a request. -/
inductive Reply where
  /-- An answer with a status and a body. -/
  | answer (status : Int) (body : String)
  /-- No answer, for a reason. -/
  | failure (reason : String)

/-- An endpoint with a state of its own. -/
abbrev Endpoint (σ : Type) := TokenRequest → σ → Reply × σ

/-- The pair of a name and a value that has characters. -/
def filledPair (name : String) (value : Option String) : List String :=
  match value.filter (!·.isEmpty) with
  | some v => [Form.pair name v]
  | none => []

/-- The form of a request for a token. -/
def tokenForm (grantType username password : Option String) : Except Fault String :=
  match grantType.filter (!·.isEmpty) with
  | none => .error .grantTypeMissing
  | some grant =>
    .ok (String.intercalate "&"
      (Form.pair "grant_type" grant :: filledPair "username" username ++
        filledPair "password" password))

/-- The code of an error answer without one. -/
def unknownError : Value := .text "unknown_error"

/-- Whether a status means success. -/
def isSuccess (status : Int) : Bool := 200 ≤ status && status < 300

/-- The token in an answer. -/
def readAnswer (status : Int) (body : String) : Except Fault Token :=
  match Json.read body with
  | .error (.tooDeep collection) => .error (Json.tooDeep collection)
  | .error _ =>
    if isSuccess status then
      .error (invalidAnswer "Token endpoint returned non-JSON response" none)
    else
      .error (.refused ⟨.text "http_error",
        .text s!"Token endpoint returned status {status}", .null, some status⟩)
  | .ok data =>
    if !data.isMap then
      .error (invalidAnswer "Token endpoint returned non-object JSON" none)
    else if isSuccess status then Token.read data
    else do
      throw (.refused ⟨← data.memberOr "error" unknownError, ← data.member "error_description",
        ← data.member "error_uri", some status⟩)

/-- The token that comes of a request to an address. -/
def concludeReply (url : String) : Reply → Except Fault Token
  | .answer status body => readAnswer status body
  | .failure reason => .error (.requestFailed url reason)

namespace Client

/-- The address that requests go to. -/
def url (c : Client) : Except Fault String := tokenUrl c.tokenEndpoint c.baseUri

/-- The request for a token. Without a grant type, a client or an address there is none. -/
def request (c : Client) : Except Fault TokenRequest := do
  match tokenForm c.grantType c.username c.password, c.clientId with
  | .error _, _ => throw (.settingMissing "OAuth2 authentication" "grant_type")
  | .ok _, none => throw (.settingMissing "OAuth2 authentication" "client_id")
  | .ok body, some id =>
    return ⟨← c.url, body, basicCredentials id (c.clientSecret.getD ""), c.timeout⟩

/-- Ask an endpoint for a token. -/
def authenticate {σ : Type} (c : Client) (endpoint : Endpoint σ) (s : σ) : Except Fault Token × σ :=
  match c.request with
  | .error fault => (.error fault, s)
  | .ok request =>
    let (reply, s) := endpoint request s
    (concludeReply request.url reply, s)

end Client

end RequestAuth
