/-!
# The tags of YAML

A tag says what a node stands for. Those with a meaning have names with a common beginning.
-/

namespace RequestAuth.Yaml

/-- The tags with a meaning. -/
inductive Tag where
  /-- The absent value. -/
  | null
  /-- Truth values. -/
  | bool
  /-- Integers. -/
  | int
  /-- Doubles. -/
  | float
  /-- Byte strings in base64. -/
  | binary
  /-- Dates and times. -/
  | timestamp
  /-- Lists of pairs that stand for an ordered mapping. -/
  | orderedMap
  /-- Lists of pairs. -/
  | pairs
  /-- Sets. -/
  | set
  /-- Texts. -/
  | text
  /-- Sequences. -/
  | sequence
  /-- Mappings. -/
  | mapping
  /-- The key whose value is merged into the mapping around it. -/
  | merge
  /-- The key of the value that stands for a whole mapping. -/
  | value
  /-- Any other tag. -/
  | unknown
  deriving DecidableEq, Inhabited

/-- What the names of all tags with a meaning begin with. -/
def tagStart : String := "tag:yaml.org,2002:"

/-- The tag of a full name. -/
def Tag.ofName (name : String) : Tag :=
  if name == tagStart ++ "null" then .null
  else if name == tagStart ++ "bool" then .bool
  else if name == tagStart ++ "int" then .int
  else if name == tagStart ++ "float" then .float
  else if name == tagStart ++ "binary" then .binary
  else if name == tagStart ++ "timestamp" then .timestamp
  else if name == tagStart ++ "omap" then .orderedMap
  else if name == tagStart ++ "pairs" then .pairs
  else if name == tagStart ++ "set" then .set
  else if name == tagStart ++ "str" then .text
  else if name == tagStart ++ "seq" then .sequence
  else if name == tagStart ++ "map" then .mapping
  else if name == tagStart ++ "merge" then .merge
  else if name == tagStart ++ "value" then .value
  else .unknown

end RequestAuth.Yaml
