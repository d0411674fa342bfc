/-!
# The tokens of YAML

Indicators and scalars in the order of the text. Where a block collection begins and ends, and which
node is a key, is made explicit by tokens that have no characters of their own.
-/

namespace RequestAuth.Yaml

/-- A directive in front of a document. -/
inductive Directive where
  /-- The version of YAML that the document is written in. -/
  | version (major : Nat)
  /-- A handle for the tags that begin in a certain way. -/
  | tagHandle (handle start : String)
  /-- Any other directive, which is ignored. -/
  | other

/-- A token. -/
inductive Token where
  /-- A directive. -/
  | directive (d : Directive)
  /-- The marker `---`. -/
  | documentStart
  /-- The marker `...`. -/
  | documentEnd
  /-- The start of a block sequence. -/
  | blockSequenceStart
  /-- The start of a block mapping. -/
  | blockMappingStart
  /-- The end of a block collection. -/
  | blockEnd
  /-- An opening bracket. -/
  | flowSequenceStart
  /-- A closing bracket. -/
  | flowSequenceEnd
  /-- An opening brace. -/
  | flowMappingStart
  /-- A closing brace. -/
  | flowMappingEnd
  /-- The hyphen of a block sequence. -/
  | blockEntry
  /-- The comma of a flow collection. -/
  | flowEntry
  /-- The start of a key. -/
  | key
  /-- The colon before a value. -/
  | value
  /-- A reference to an anchor. -/
  | alias (name : String)
  /-- An anchor. -/
  | anchor (name : String)
  /-- A tag: a handle, unless the tag is written in full, and what follows it. -/
  | tag (handle : Option String) (suffix : String)
  /-- A scalar, plain or in one of the other styles. -/
  | scalar (content : String) (plain : Bool)
  deriving Inhabited

end RequestAuth.Yaml
