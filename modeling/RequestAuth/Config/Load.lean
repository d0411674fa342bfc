import RequestAuth.Config
import RequestAuth.File
import RequestAuth.Yaml.Reader

/-!
# The configuration file

A file that is missing gives the default configuration, and one without a value that is true an
empty mapping. In every case the environment takes precedence for the secrets.
-/

namespace RequestAuth.Config

/-- The name of the configuration file where none is given. -/
def usualFile : String := "config/auth.yaml"

/-- The name of the file to load. An empty name counts as none. -/
def fileName (name : Option String) : String := (name.filter (!·.isEmpty)).getD usualFile

/-- The value in a file. That the text is no YAML is a fault of the file; a scalar without a value
and bytes that are no text are faults of their own. -/
def readFile (name : String) (file : FileState) : Except Fault Value :=
  let unreadable := Fault.fileUnreadable .configuration name
  match file.bytes with
  | .error cause => .error (unreadable cause)
  | .ok bytes =>
    match Yaml.read bytes with
    | .error .yamlMalformed => .error (unreadable .malformedYaml)
    | r => r

/-- The configuration of a file and the environment. -/
def load (name : Option String) (file : FileState) (environment : List (String × String)) :
    Except Fault Config := do
  let name := fileName name
  match file with
  | .missing => return (← ofEntries []).withEnvironment environment
  | file =>
    let data := (← readFile name file).orElse (.map [])
    if !data.isMap then throw (.fileNoMapping .configuration name)
    return (← ofValue data).withEnvironment environment

end RequestAuth.Config
