import RequestAuth.Value.Text

/-!
# Faults

Everything that can go wrong between a document, a configuration, a request and a token endpoint,
as a cause, with the wording of each in one place (`Fault.message`). `Fault.kind` sorts the causes
into the classes that decide how a fault is handled: a missing credential or an unsupported scheme
makes one alternative unsatisfiable, every other fault ends the operation.
-/

namespace RequestAuth

/-- The files that are read. -/
inductive FileRole where
  /-- The file with the credentials. -/
  | configuration
  /-- The file with the description of the service. -/
  | documentation
  deriving DecidableEq

/-- Why a file could not be read. -/
inductive ReadFault where
  /-- The text is no YAML. -/
  | malformedYaml
  /-- The text is no JSON. -/
  | malformedJson
  /-- The bytes are no UTF-8. -/
  | undecodable
  /-- There is no file of that name. -/
  | missing
  /-- The name is that of a directory. -/
  | directory
  /-- A scalar has the form of a number or date but no value, or the name is none for a file. -/
  | badValue
  /-- Too many collections stand inside one another, the innermost of some kind. -/
  | tooDeep (collection : String)
  /-- No file can have such a long name. -/
  | nameTooLong
  deriving DecidableEq

/-- An error answer of the token endpoint. -/
structure Refusal where
  /-- The error code. -/
  code : Value
  /-- The explanation. -/
  description : Value
  /-- The address of a page about the error. -/
  uri : Value
  /-- The status of the reply, when the reply itself is the error. -/
  status : Option Int

/-- What can go wrong. -/
inductive Fault where
  /-- No authentication type is named so. -/
  | authenticationTypeUnknown (given : String)
  /-- An entry of the key table is no name and value. -/
  | keyEntryMalformed (entry : String)
  /-- The key table is neither a mapping nor a text. -/
  | keyTableMalformed (typeName : String)
  /-- A file could not be read. -/
  | fileUnreadable (role : FileRole) (name : String) (cause : ReadFault)
  /-- A file holds no mapping. -/
  | fileNoMapping (role : FileRole) (name : String)
  /-- A file has neither the extension of YAML nor that of JSON. -/
  | formatUnsupported (name : String)
  /-- A way of authentication lacks a configured value. -/
  | settingMissing (method setting : String)
  /-- A token request was to be built without a grant type. -/
  | grantTypeMissing
  /-- A relative token endpoint has no base to stand on. -/
  | baseMissing (endpoint : String)
  /-- No token can be had at all. -/
  | tokenSourceMissing
  /-- The key table has no such entry. -/
  | keyMissing (name : String)
  /-- A requirement names a scheme that is not declared. -/
  | schemeUnknown (name : String)
  /-- No credentials can be built for this type of scheme. -/
  | schemeUnsupported (type : String)
  /-- A key cannot be sent in this place. -/
  | locationUnsupported (location : String)
  /-- The token request got no reply. -/
  | requestFailed (url reason : String)
  /-- No token could be had, for a reason given by its source. -/
  | tokenUnavailable (reason : String)
  /-- The token endpoint answered with an error or with something that is no token. -/
  | refused (answer : Refusal)
  /-- An operation without a path was asked for. -/
  | pathEmpty
  /-- An operation without a method was asked for. -/
  | methodEmpty
  /-- A value of the wrong kind was asked for something that only another kind has. -/
  | memberMissing
  /-- A value has the wrong kind. -/
  | typeMismatch
  /-- A value of the right kind that makes no sense. -/
  | valueInvalid (detail : String)
  /-- A number or date beyond what can be represented. -/
  | outOfRange (detail : String)
  /-- A name that is not in a table. -/
  | entryMissing
  /-- A number was asked of a text without characters. -/
  | textEmpty
  /-- Bytes that are no UTF-8. -/
  | undecodable
  /-- A text that is no YAML. -/
  | yamlMalformed
  /-- Collections that stand inside one another without end, or too many of them. -/
  | tooDeep (detail : String)

/-- The classes of faults. -/
inductive Fault.Kind where
  /-- A file or value could not be understood. -/
  | configuration
  /-- A credential is not configured. -/
  | configurationMissing
  /-- The key table lacks the key. -/
  | keyMissing
  /-- The scheme is not declared. -/
  | schemeUnknown
  /-- The scheme or location is not supported. -/
  | unsupported
  /-- The token could not be fetched. -/
  | tokenFetch
  /-- The token endpoint answered with an error. -/
  | refused
  /-- The operation is not named. -/
  | argument
  /-- A member of a value is missing. -/
  | member
  /-- A value has the wrong kind. -/
  | type
  /-- A value makes no sense. -/
  | value
  /-- A value is out of range. -/
  | range
  /-- A name is not in a table. -/
  | entry
  /-- A place that a text does not have. -/
  | place
  /-- Bytes are no text. -/
  | encoding
  /-- A text is no YAML. -/
  | yaml
  /-- Collections are nested too deep. -/
  | depth
  deriving DecidableEq

namespace Fault

/-- The class of a fault. -/
def kind : Fault → Kind
  | .authenticationTypeUnknown _ | .keyEntryMalformed _ | .keyTableMalformed _
  | .fileUnreadable .. | .fileNoMapping .. | .formatUnsupported _ => .configuration
  | .settingMissing .. | .grantTypeMissing | .baseMissing _ | .tokenSourceMissing =>
    .configurationMissing
  | .keyMissing _ => .keyMissing
  | .schemeUnknown _ => .schemeUnknown
  | .schemeUnsupported _ | .locationUnsupported _ => .unsupported
  | .requestFailed .. | .tokenUnavailable _ => .tokenFetch
  | .refused _ => .refused
  | .pathEmpty | .methodEmpty => .argument
  | .memberMissing => .member
  | .typeMismatch => .type
  | .valueInvalid _ => .value
  | .outOfRange _ => .range
  | .entryMissing => .entry
  | .textEmpty => .place
  | .undecodable => .encoding
  | .yamlMalformed => .yaml
  | .tooDeep _ => .depth

/-- Whether the fault only means that one alternative cannot be satisfied. -/
def isUnsatisfiable (f : Fault) : Bool :=
  match f.kind with
  | .configurationMissing | .keyMissing | .schemeUnknown | .unsupported => true
  | _ => false

/-- Whether the fault is the token endpoint's. -/
def isTokenFault (f : Fault) : Bool :=
  match f.kind with
  | .tokenFetch | .refused => true
  | _ => false

/-- Whether the fault is one of authentication, and not of a value's kind or range. -/
def isAuthentication (f : Fault) : Bool :=
  match f.kind with
  | .member | .type | .value | .range | .entry | .place | .encoding | .yaml | .depth => false
  | _ => true

end Fault

/-- The wording of an error answer: the code, and the description when there is one. -/
def Refusal.message (r : Refusal) : String :=
  if r.description.isTrue then r.code.toText ++ ": " ++ r.description.toText else r.code.toText

/-- The wording of each fault. -/
def Fault.message : Fault → String
  | .authenticationTypeUnknown given => s!"Unknown authentication type: {given}"
  | .keyEntryMalformed entry =>
    s!"Invalid api_keys entry: {quotedText entry}, expected name:value"
  | .keyTableMalformed typeName => s!"api_keys must be a mapping or a string, got {typeName}"
  | .fileUnreadable .configuration name _ => s!"Error loading configuration file {name}"
  | .fileUnreadable .documentation name _ => s!"Error loading OpenAPI documentation {name}"
  | .fileNoMapping .configuration name => s!"Configuration file {name} must contain a mapping"
  | .fileNoMapping .documentation name => s!"OpenAPI documentation {name} is not a mapping"
  | .formatUnsupported name => s!"Unsupported file format: {name}"
  | .settingMissing method setting =>
    s!"Cannot use {method}, {setting} configuration property is not set"
  | .grantTypeMissing => "grant_type is not set"
  | .baseMissing endpoint =>
    s!"Cannot resolve relative token endpoint {endpoint}, base_uri is not set"
  | .tokenSourceMissing => "Cannot use OAuth2 authentication, no token endpoint configured"
  | .keyMissing name => s!"Missing API key {name} in api_keys configuration"
  | .schemeUnknown name => s!"Security scheme {name} is not declared"
  | .schemeUnsupported type => s!"Unsupported security scheme {type}"
  | .locationUnsupported location => s!"Unsupported security scheme `in` type: {location}"
  | .requestFailed url reason => s!"Token request to {url} failed: {reason}"
  | .tokenUnavailable reason => reason
  | .refused answer => answer.message
  | .pathEmpty => "path is empty"
  | .methodEmpty => "method is empty"
  | .memberMissing => "the value has no such member"
  | .typeMismatch => "the value has the wrong type"
  | .valueInvalid detail => detail
  | .outOfRange detail => detail
  | .entryMissing => "the table has no such entry"
  | .textEmpty => "the text is empty"
  | .undecodable => "the bytes are not UTF-8"
  | .yamlMalformed => "the text is not YAML"
  | .tooDeep detail => "maximum recursion depth exceeded" ++ detail

/-- The fault of writing a value. -/
def Fault.ofWriting : WriteFault → Fault
  | .overlong => .valueInvalid "Exceeds the limit (4300 digits) for integer string conversion"
  | .tooDeep => .tooDeep " while getting the repr of an object"

end RequestAuth
