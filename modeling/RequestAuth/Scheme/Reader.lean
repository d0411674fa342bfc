import RequestAuth.Scheme
import RequestAuth.Value.Access
import RequestAuth.Notice
import RequestAuth.Text.Case

/-!
# Schemes in a document

Documents of version 2 declare their schemes under `securityDefinitions`, with one flow in each
OAuth 2.0 scheme; later ones under `components` and `securitySchemes`, with the flows in a mapping
of their own. Definitions that are no mapping or have an unknown type are left out with a warning,
whether or not it can be written.
-/

namespace RequestAuth

/-- The names of the flows of version 3, in the order in which they are kept. -/
def flowNames : List String := ["clientCredentials", "authorizationCode", "implicit", "password"]

/-- The flow that a definition describes. -/
def Flow.read (type data : Value) : Except Fault Flow := do
  let tokenUrl ← data.member "tokenUrl"
  let authorizationUrl ← data.member "authorizationUrl"
  let refreshUrl ← data.member "refreshUrl"
  let scopes ← ((← data.member "scopes").orElse (.map [])).toEntries
  return ⟨type, tokenUrl, authorizationUrl, refreshUrl, scopes⟩

/-- Whether one text occurs in another. -/
def occursIn (part : List Char) : List Char → Bool
  | [] => part.isEmpty
  | c :: rest => part.isPrefixOf (c :: rest) || occursIn part rest

/-- What a value holds under a name, if the name is in it. Only a mapping can be asked for what it
holds; in other values that have the name it is a fault to ask. -/
def heldUnder? (data : Value) (name : String) : Except Fault (Option Value) :=
  match data.opened with
  | .map entries => .ok (Value.lookup? entries name)
  | .list items | .set items =>
    if items.contains (.text name) then .error .typeMismatch else .ok none
  | .text s => if occursIn name.toList s.toList then .error .typeMismatch else .ok none
  | .pair a b =>
    if a == .text name || b == .text name then .error .typeMismatch else .ok none
  | _ => .error .typeMismatch

/-- The flows of a version 3 definition, in the fixed order of their names. -/
def readFlows (data : Value) : (names : List String) → Except Fault (List (Value × Flow))
  | [] => .ok []
  | name :: names => do
    match ← heldUnder? data name with
    | none => readFlows data names
    | some held =>
      let flow ← Flow.read (.text name) (held.orElse (.map []))
      return (.text name, flow) :: (← readFlows data names)

/-- The version 3 name of a version 2 flow; other values are kept. -/
def flowName (flow : Value) : Value :=
  if flow == .text "application" then .text "clientCredentials"
  else if flow == .text "accessCode" then .text "authorizationCode"
  else flow

/-- The one flow of a version 2 definition. -/
def readFlow (data : Value) : Except Fault (List (Value × Flow)) := do
  let flow ← data.memberOr "flow" (.text "")
  if !flow.isKey then throw .typeMismatch
  let name := flowName flow
  return [(name, ← Flow.read name data)]

/-- What a definition of a type describes, if the type is known. -/
def Scheme.Kind.read (version2 : Bool) (type data : Value) : Except Fault (Option Scheme.Kind) := do
  if type == .text "apiKey" then
    let location := lowerText (← (← data.memberOr "in" (.text "header")).written)
    return some (.apiKey (.text location) (← data.member "name"))
  else if type == .text "http" then
    return some (.http (← data.member "scheme") (← data.member "bearerFormat"))
  else if type == .text "basic" then
    return some (.http (.text "basic") .null)
  else if type == .text "oauth2" then
    let flows ← if version2 then readFlow data
      else readFlows ((← data.member "flows").orElse (.map [])) flowNames
    return some (.oauth2 flows)
  else if type == .text "openIdConnect" then
    return some (.openIdConnect (← data.memberOr "openIdConnectUrl" (.text "")))
  else return none

/-- The scheme that a definition describes, or the warning that it describes none. -/
def Scheme.read (version2 : Bool) (name data : Value) : Except Fault (Scheme ⊕ Notice) := do
  if !data.isMap then
    return .inr (.warn [.text "Ignoring malformed security scheme ", name])
  let type ← data.memberOr "type" (.text "")
  let description ← data.member "description"
  match ← Scheme.Kind.read version2 type data with
  | some kind => return .inl ⟨name, description, kind⟩
  | none =>
    return .inr (.warn [.text "Unknown security scheme type: ", type, .text " for scheme ", name])

/-- The schemes of a list of definitions, and the warnings. -/
def readSchemes (version2 : Bool) : List (Value × Value) → Except Fault (Registry × List Notice)
  | [] => .ok ([], [])
  | (name, data) :: rest => do
    match ← Scheme.read version2 name data with
    | .inl scheme =>
      let (schemes, notices) ← readSchemes version2 rest
      return ((name, scheme) :: schemes, notices)
    | .inr notice =>
      let (schemes, notices) ← readSchemes version2 rest
      return (schemes, notice :: notices)

/-- Whether a document is of version 2. -/
def isVersion2 (document : Value) : Except Fault Bool := do
  return (← (← document.memberOr "swagger" (.text "")).written).startsWith "2."

/-- The value that holds the definitions of a document. -/
def schemeDefinitions (version2 : Bool) (document : Value) : Except Fault Value := do
  if version2 then return (← document.member "securityDefinitions").orElse (.map [])
  else
    let components := (← document.member "components").orElse (.map [])
    return (← components.member "securitySchemes").orElse (.map [])

/-- The schemes of a document, and the warnings. -/
def Registry.ofDocument (document : Value) : Except Fault (Registry × List Notice) := do
  let version2 ← isVersion2 document
  readSchemes version2 (← (← schemeDefinitions version2 document).entries)

end RequestAuth
