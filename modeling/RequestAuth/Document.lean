import RequestAuth.Scheme.Reader
import RequestAuth.Requirement.Reader
import RequestAuth.File
import RequestAuth.Yaml.Reader
import RequestAuth.Json.Reader

/-!
# Service descriptions

The part of a service description that authentication needs: the declared schemes and the
requirements of its operations. A description is read from a YAML or JSON file, by its extension.
-/

namespace RequestAuth

/-- What a service description says about security. -/
structure Security where
  /-- The declared schemes. -/
  schemes : Registry
  /-- The requirements of the operations. -/
  table : Table

namespace Security

/-- What a document says about security, and the warnings about it. -/
def ofDocument (document : Value) : Except Fault (Security × List Notice) := do
  let (schemes, notices) ← Registry.ofDocument document
  return (⟨schemes, ← Table.ofDocument document⟩, notices)

/-- Whether a name ends in an extension. -/
def hasExtension (name extension : String) : Bool := extension.toList.isSuffixOf name.toList

/-- What a fault of reading YAML means for the file: faults of its form are reported with the file,
others as they are. -/
def yamlFault : Fault → Fault ⊕ ReadFault
  | .yamlMalformed => .inr .malformedYaml
  | .undecodable => .inr .undecodable
  | .valueInvalid _ => .inr .badValue
  | fault => .inl fault

/-- What a fault of reading JSON means for the file. -/
def jsonFault : ReadFault → Fault ⊕ ReadFault
  | .tooDeep collection => .inl (Json.tooDeep collection)
  | cause => .inr cause

/-- The reader of values from bytes that the extension of a name asks for. -/
def reader? (name : String) : Option (List UInt8 → Except (Fault ⊕ ReadFault) Value) :=
  if hasExtension name ".yaml" || hasExtension name ".yml" then
    some fun bytes => (Yaml.read bytes).mapError yamlFault
  else if hasExtension name ".json" then
    some fun bytes => (decoded bytes >>= Json.read).mapError jsonFault
  else none

/-- The document in a file, which has to be a mapping. -/
def readDocument (name : String) (file : FileState) : Except Fault Value := do
  match reader? name with
  | none => throw (.formatUnsupported name)
  | some read =>
    let unreadable := Fault.fileUnreadable .documentation name
    if let some cause := nameFault? name then throw (unreadable cause)
    match file.bytes.mapError Sum.inr >>= read with
    | .error (.inl fault) => throw fault
    | .error (.inr cause) => throw (unreadable cause)
    | .ok document =>
      if document.isMap then return document else throw (.fileNoMapping .documentation name)

/-- What the document in a file says about security, and the warnings about it. -/
def load (name : String) (file : FileState) : Except Fault (Security × List Notice) := do
  ofDocument (← readDocument name file)

end Security

end RequestAuth
