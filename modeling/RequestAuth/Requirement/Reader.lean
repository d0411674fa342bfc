import RequestAuth.Requirement
import RequestAuth.Value.Access

/-!
# Requirements in a document

The lists that a document gives for its operations under `paths` and the default list under
`security`. An operation without `security` is not listed, one with an empty list is.

The scopes of a scheme are the items of whatever value is given, none for null. A table can also be
built from single operations; of two entries for one operation the later counts.
-/

namespace RequestAuth

/-- The methods that operations are declared with. -/
def methods : List String :=
  ["GET", "PUT", "POST", "DELETE", "OPTIONS", "HEAD", "PATCH", "TRACE"]

/-- The scopes that a value lists. -/
def readScopes (v : Value) : Except Fault (List Value) := if v.isTrue then v.items else .ok []

/-- The alternative that a mapping describes. -/
def Requirement.read (v : Value) : Except Fault Requirement := do
  (← v.entries).mapM fun e => do return (e.1, ← readScopes e.2)

/-- The alternatives that the items of a value describe. -/
def readAlternatives (v : Value) : Except Fault (List Requirement) := do
  (← v.items).mapM Requirement.read

/-- An entry of a table before its alternatives are read. -/
structure Declaration where
  /-- The declared path, of whatever kind. -/
  path : Value
  /-- The method. -/
  method : Value
  /-- The value that lists the alternatives. -/
  alternatives : Value

/-- The path and the method in capitals, with the alternatives. A method that is no text is a
fault. -/
def Declaration.read (d : Declaration) :
    Except Fault ((Value × String) × List Requirement) := do
  match d.method with
  | .text m => return ((d.path, upperText m), ← readAlternatives d.alternatives)
  | _ => throw .memberMissing

/-- A declared path, which has to be a text. -/
def readPath : Value → Except Fault String
  | .text p => .ok p
  | .bytes _ | .pair .. => .error .typeMismatch
  | _ => .error .memberMissing

/-- An entry of a table whose path is a text. -/
def readOperation (e : (Value × String) × List Requirement) :
    Except Fault (Operation × List Requirement) := do
  return (⟨← readPath e.1.1, e.1.2⟩, e.2)

namespace Table

/-- The table of some declarations and a value that lists the default alternatives. -/
def ofDeclarations (declarations : List Declaration) (default : Value) : Except Fault Table := do
  let entries ← declarations.mapM Declaration.read
  let default ← readAlternatives (default.orElse (.list []))
  return ⟨← (ofEntries entries).mapM readOperation, default⟩

/-- The declarations with one for each path and method, in the place of the first and with the
alternatives of the last. A path or method that cannot be a key is a fault. -/
def distinct (declarations : List Declaration) : Except Fault (List Declaration) :=
  if declarations.all fun d => d.path.isKey && d.method.isKey then
    .ok ((ofEntries (declarations.map fun d => ((d.path, d.method), d.alternatives))).map fun e =>
      ⟨e.1.1, e.1.2, e.2⟩)
  else .error .typeMismatch

/-- What a path item declares for a method, if anything: the items of its list. -/
def declaration? (path item : Value) (method : String) : Except Fault (Option Declaration) := do
  let operation ← item.member (lowerText method)
  if !operation.isMap then return none
  match ← operation.member "security" with
  | .null => return none
  | security => return some ⟨path, .text method, .list (← security.items)⟩

/-- What a path item declares for the methods. -/
def declarationsOf (path item : Value) : Except Fault (List Declaration) := do
  if item.isMap then return (← methods.mapM (declaration? path item)).filterMap id else return []

/-- The table of a document. -/
def ofDocument (document : Value) : Except Fault Table := do
  let paths ← ((← document.member "paths").orElse (.map [])).entries
  let declarations ← paths.mapM fun e => declarationsOf e.1 e.2
  let default ← ((← document.member "security").orElse (.list [])).items
  ofDeclarations declarations.flatten (.list default)

end Table

end RequestAuth
