import RequestAuth.CommandLine.Arguments
import RequestAuth.Document
import RequestAuth.Json.Writer

/-!
# Describing an operation

The answer to the command `describe`: the alternatives of an operation, each with its schemes and
their scopes, as JSON. A file or an operation that makes no sense ends the command with a message;
other faults of the document are left to the caller.
-/

namespace RequestAuth.CommandLine

/-- An entry of a mapping. -/
def field (name : String) (value : Value) : Value × Value := (.text name, value)

/-- What is said about a scheme beside its name and type. -/
def kindFields : Scheme.Kind → List (Value × Value)
  | .apiKey location parameterName =>
    [field "location" location, field "parameter_name" parameterName]
  | .http subscheme _ => [field "scheme" subscheme]
  | .oauth2 flows => [field "flows" (.list (flows.map Prod.fst))]
  | .openIdConnect _ => []

/-- The type of a scheme and what else is said about it; null for one that is not declared. -/
def schemeFields : Option Scheme → List (Value × Value)
  | none => [field "type" .null]
  | some s => field "type" (.text s.kind.word) :: kindFields s.kind

/-- What is said about an alternative. -/
def describeAlternative (schemes : Registry) (r : Requirement) : Value :=
  .map [field "schemes" (.list (r.map fun e =>
    .map (field "name" e.1 :: schemeFields (schemes.find? e.1) ++
      [field "scopes" (.list e.2)])))]

/-- The alternatives of an operation of a document. -/
def describe (security : Security) (path method : String) : Except Fault Value := do
  let alternatives ← security.table.resolve (some path) (some method)
  return .list (alternatives.map (describeAlternative security.schemes))

/-- What a command ends with. -/
inductive Ending where
  /-- A text. -/
  | text (s : String)
  /-- A message about a fault. -/
  | failure (fault : Fault)
  /-- A word about how the command is used, which was asked for. -/
  | help
  /-- A word about how the command is used, since the arguments made no sense. -/
  | misuse

/-- The code that a command ends with. -/
def Ending.code : Ending → UInt32
  | .text _ | .help => 0
  | .failure _ => 1
  | .misuse => 2

/-- The answer to a request for an operation of a file. -/
def answerDescribe (name : String) (file : FileState) (path method : String) :
    Except Fault String := do
  let (security, _) ← Security.load name file
  return (← Json.write true (← describe security path method)) ++ "\n"

/-- The ending of a command with some arguments, given what there is under the names of files. -/
def answer (args : List String) (files : String → FileState) : Except Fault Ending :=
  match readArguments args with
  | .error .usage => .ok .misuse
  | .ok .help => .ok .help
  | .ok (.describe name path method) =>
    match answerDescribe name (files name) path method with
    | .ok s => .ok (.text s)
    | .error fault => if fault.isAuthentication then .ok (.failure fault) else .error fault

end RequestAuth.CommandLine
