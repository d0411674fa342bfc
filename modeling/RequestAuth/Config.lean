import RequestAuth.Value.Access
import RequestAuth.Text.Case
import RequestAuth.Text.Blank

/-!
# Configuration

The credentials that requests are authenticated with, and how they are given: as a mapping of
settings (`Config.ofValue`), and by environment variables that take precedence for the six secrets
(`Config.withEnvironment`).

A key of the mapping denotes a setting in several spellings (`Setting.ofKey?`), and the last key
that denotes it counts. The key table may be given as a mapping or as one text (`readKeys`).
-/

namespace RequestAuth

/-- How requests are authenticated for which no requirement can be satisfied. -/
inductive AuthenticationType where
  /-- Not at all. -/
  | none
  /-- With an API key. -/
  | apiKey
  /-- With HTTP authentication. -/
  | http
  /-- With an OAuth 2.0 token. -/
  | oauth
  deriving DecidableEq

/-- The word for an authentication type. -/
def AuthenticationType.word : AuthenticationType → String
  | .none => "none"
  | .apiKey => "api_key"
  | .http => "http"
  | .oauth => "oauth"

/-- The settings. -/
inductive Setting where
  /-- The address of the service. -/
  | baseUri
  /-- The fallback authentication. -/
  | authenticationType
  /-- The HTTP sub-scheme where none is declared. -/
  | authenticationScheme
  /-- The user of HTTP authentication and token requests. -/
  | username
  /-- The user's password. -/
  | password
  /-- The token of HTTP bearer authentication. -/
  | bearerToken
  /-- The name of the API key where none is declared. -/
  | apiKeyName
  /-- The API key. -/
  | apiKeyValue
  /-- API keys by name. -/
  | apiKeys
  /-- The OAuth 2.0 client. -/
  | clientId
  /-- The client's secret. -/
  | clientSecret
  /-- The OAuth 2.0 grant type. -/
  | grantType
  /-- The address of the token endpoint. -/
  | tokenEndpoint
  /-- The time a token request may take. -/
  | tokenTimeout
  /-- The interval of token renewal. -/
  | renewalInterval
  deriving DecidableEq

namespace Setting

/-- The name of a setting. -/
def name : Setting → String
  | baseUri => "base_uri"
  | authenticationType => "authentication_type"
  | authenticationScheme => "authentication_scheme"
  | username => "username"
  | password => "password"
  | bearerToken => "bearer_token"
  | apiKeyName => "api_key_name"
  | apiKeyValue => "api_key_value"
  | apiKeys => "api_keys"
  | clientId => "client_id"
  | clientSecret => "client_secret"
  | grantType => "grant_type"
  | tokenEndpoint => "token_endpoint"
  | tokenTimeout => "token_timeout"
  | renewalInterval => "renewal_interval_minutes"

/-- All settings. -/
def all : List Setting :=
  [baseUri, authenticationType, authenticationScheme, username, password, bearerToken, apiKeyName,
    apiKeyValue, apiKeys, clientId, clientSecret, grantType, tokenEndpoint, tokenTimeout,
    renewalInterval]

/-- The settings whose values are texts. -/
def texts : List Setting :=
  [baseUri, authenticationScheme, username, password, bearerToken, apiKeyName, apiKeyValue,
    clientId, clientSecret, grantType, tokenEndpoint]

/-- The setting of a name. -/
def ofName? (name : String) : Option Setting := all.find? fun s => s.name == name

/-- What keys of one spelling begin with. -/
def keyStart : String := "authentication."

/-- The name that a key spells: hyphens and dots count as underscores, and `authentication.` in
front for nothing. -/
def spelledName (key : String) : String :=
  let bare := if keyStart.toList.isPrefixOf key.toList then key.toList.drop keyStart.length
    else key.toList
  String.ofList (bare.map fun c => if c == '-' || c == '.' then '_' else c)

/-- The setting that a key denotes: the one of the name that it spells, or else the one with
`authentication_` in front of that name. -/
def ofKey? (key : String) : Option Setting :=
  let name := spelledName key
  match ofName? name with
  | some s => some s
  | none => ofName? ("authentication_" ++ name)

end Setting

/-- A configuration. -/
structure Config where
  /-- The address of the service. -/
  baseUri : Option String
  /-- The fallback authentication. -/
  authenticationType : AuthenticationType
  /-- The HTTP sub-scheme where none is declared. -/
  authenticationScheme : Option String
  /-- The user of HTTP authentication and token requests. -/
  username : Option String
  /-- The user's password. -/
  password : Option String
  /-- The token of HTTP bearer authentication. -/
  bearerToken : Option String
  /-- The name of the API key where none is declared. -/
  apiKeyName : Option String
  /-- The API key. -/
  apiKeyValue : Option String
  /-- API keys by name; when there are any the single key is not used. -/
  apiKeys : List (String × String)
  /-- The OAuth 2.0 client. -/
  clientId : Option String
  /-- The client's secret. -/
  clientSecret : Option String
  /-- The OAuth 2.0 grant type. -/
  grantType : Option String
  /-- The address of the token endpoint, or a path below the service's. -/
  tokenEndpoint : Option String
  /-- The seconds that a token request may take. -/
  tokenTimeout : Value
  /-- The minutes between two renewals of the token, none if not positive. -/
  renewalInterval : Value

/-- The authentication type that a value names: in any case, with hyphens for underscores, blanks
around it ignored. Null and the empty text name none. -/
def AuthenticationType.read (v : Value) : Except Fault AuthenticationType :=
  match v with
  | .null => .ok .none
  | .text "" => .ok .none
  | v => do
    let given ← v.written
    let word := (Text.lower (Text.trim given.toList)).map fun c => if c == '-' then '_' else c
    let word := String.ofList word
    if word == "none" then return .none
    else if word == "api_key" || word == "apikey" then return .apiKey
    else if word == "http" then return .http
    else if word == "oauth" || word == "oauth2" then return .oauth
    else throw (.authenticationTypeUnknown given)

/-! ### The key table -/

/-- The name and the value of an entry, none when it is blank. A name must not be blank, and a colon
has to follow it. -/
def readKeyEntry (entry : List Char) : Except Fault (Option (String × String)) :=
  let entry := Text.trim entry
  if entry.isEmpty then .ok none
  else
    let name := Text.trim (entry.takeWhile (· != ':'))
    if !entry.contains ':' || name.isEmpty then .error (.keyEntryMalformed (String.ofList entry))
    else
      let value := Text.trim ((entry.dropWhile (· != ':')).drop 1)
      .ok (some (String.ofList name, String.ofList value))

/-- The keys that a text lists, as `name:value` between commas. -/
def readKeyText (s : String) : Except Fault (List (String × String)) := do
  return ofEntries ((← (s.toList.splitOn ',').mapM readKeyEntry).filterMap id)

/-- The keys that a value gives by name. -/
def readKeys (v : Value) : Except Fault (List (String × String)) :=
  if !v.isTrue then .ok []
  else match v.opened with
    | .map entries => do
      return ofEntries (← entries.mapM fun e => do return (← e.1.written, ← e.2.written))
    | .text s => readKeyText s
    | v => .error (.keyTableMalformed v.typeName)

/-! ### From a mapping to a configuration -/

/-- What a setting is given as, if it is: the value of the last key that denotes it. -/
def given? (entries : List (Value × Value)) (s : Setting) : Option Value :=
  (entries.reverse.find? fun e => Setting.ofKey? e.1.toText == some s).map Prod.snd

/-- The text of a setting that is given as a value: none for null. -/
def settingText : Value → Option String
  | .null => none
  | v => some v.toText

/-- The text that a setting is given as, if it is not null. -/
def givenText? (entries : List (Value × Value)) (s : Setting) : Option String :=
  (given? entries s).bind settingText

namespace Config

/-- The configuration that the entries of a mapping give. Keys and texts have to be such that they
can be written. -/
def ofEntries (entries : List (Value × Value)) : Except Fault Config := do
  entries.forM fun e => e.1.checkWritable
  Setting.texts.forM fun s => ((given? entries s).getD .null).checkWritable
  let authenticationType ←
    AuthenticationType.read ((given? entries .authenticationType).getD .null)
  let apiKeys ← readKeys ((given? entries .apiKeys).getD .null)
  return {
    baseUri := givenText? entries .baseUri
    authenticationType
    authenticationScheme :=
      match given? entries .authenticationScheme with
      | none => some "basic"
      | some v => settingText v
    username := givenText? entries .username
    password := givenText? entries .password
    bearerToken := givenText? entries .bearerToken
    apiKeyName := givenText? entries .apiKeyName
    apiKeyValue := givenText? entries .apiKeyValue
    apiKeys
    clientId := givenText? entries .clientId
    clientSecret := givenText? entries .clientSecret
    grantType := givenText? entries .grantType
    tokenEndpoint := givenText? entries .tokenEndpoint
    tokenTimeout := (given? entries .tokenTimeout).getD (.int 30)
    renewalInterval := (given? entries .renewalInterval).getD (.int 0) }

/-- The configuration that a mapping gives. -/
def ofValue (v : Value) : Except Fault Config := do ofEntries (← v.entries)

/-- A variable of the environment, if it has characters. -/
def secretOf? (environment : List (String × String)) (name : String) : Option String :=
  (environment.lookup name).filter (!·.isEmpty)

/-- The configuration with the secrets that the environment has. -/
def withEnvironment (c : Config) (environment : List (String × String)) : Config :=
  let find := secretOf? environment
  { c with
    username := find "OPENAPI_AUTH_USERNAME" <|> c.username
    password := find "OPENAPI_AUTH_PASSWORD" <|> c.password
    bearerToken := find "OPENAPI_AUTH_BEARER_TOKEN" <|> c.bearerToken
    apiKeyValue := find "OPENAPI_AUTH_API_KEY_VALUE" <|> c.apiKeyValue
    clientId := find "OPENAPI_AUTH_CLIENT_ID" <|> c.clientId
    clientSecret := find "OPENAPI_AUTH_CLIENT_SECRET" <|> c.clientSecret }

end Config

end RequestAuth
