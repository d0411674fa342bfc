import Std.Data.TreeMap
import RequestAuth.Yaml.Implicit
import RequestAuth.Yaml.Tokens

/-!
# The nodes of a YAML document

The scalars, sequences and mappings that the tokens of a text describe, numbered in the order in
which they begin, each with its tag. A collection holds the numbers of the nodes in it, so an alias
is the number of the node it refers to, which may lie around it. A text holds at most one document.

Tokens are asked for one by one, and a fault of the text behind a token comes after every fault that
the tokens before it make.
-/

namespace RequestAuth.Yaml

/-- What a node holds, other nodes by their numbers. -/
inductive Content where
  /-- A scalar. -/
  | scalar (text : String)
  /-- A sequence. -/
  | sequence (items : List Nat)
  /-- A mapping. -/
  | mapping (entries : List (Nat × Nat))
  deriving Inhabited

/-- A node. -/
structure Node where
  /-- The tag. -/
  tag : Tag
  /-- What it holds. -/
  content : Content
  deriving Inhabited

/-- The nodes of a document by number. -/
abbrev Graph := Std.TreeMap Nat Node

namespace Node

/-- The node of nothing at all. -/
def empty : Node := ⟨.null, .scalar ""⟩

/-- The state of reading nodes. -/
structure Reader where
  /-- The tokens still to be read. -/
  lexer : Lexer
  /-- The tag handles of the document. -/
  handles : List (String × String)
  /-- The numbers of the nodes with an anchor. -/
  anchors : List (String × Nat)
  /-- The nodes that are read. -/
  nodes : List (Nat × Node)
  /-- The count of the nodes that are begun. -/
  count : Nat
  /-- The count of the collections around. -/
  depth : Nat

/-- Steps of reading nodes. -/
abbrev Reading := StateT Reader (Except Fault)

/-- A fault of the text. -/
def malformed {α : Type} : Reading α := throw .yamlMalformed

/-- The next token, if there is one. -/
def peek : Reading (Option Token) := fun s => do
  let (t, lexer) ← s.lexer.peek
  return (t, { s with lexer })

/-- Whether the next token is one of some. -/
def next (p : Token → Bool) : Reading Bool := do return (← peek).any p

/-- Go to the token behind the next one. -/
def advance : Reading Unit := modify fun s => { s with lexer := s.lexer.advance }

/-- Go behind the next token if it is one of some, and say whether it was. -/
def accept (p : Token → Bool) : Reading Bool := do
  if ← next p then
    advance
    return true
  else return false

/-- Go behind the next token, which has to be one of some. -/
def require (p : Token → Bool) : Reading Unit := do
  if !(← accept p) then malformed

/-- Whether a token ends an entry of a block mapping. -/
def endsEntry : Token → Bool
  | .key | .value | .blockEnd => true
  | _ => false

/-- Whether a token ends an item of a block sequence. -/
def endsItem : Token → Bool
  | .blockEntry | .blockEnd => true
  | _ => false

/-- Whether a token ends an item of a sequence that is indented no further than the mapping
around it. -/
def endsInlineItem : Token → Bool
  | .blockEntry | .key | .value | .blockEnd => true
  | _ => false

/-- Whether a token is a comma or the given closing token. -/
def endsFlow (closing : Token → Bool) : Token → Bool
  | .flowEntry => true
  | t => closing t

/-- Whether a token is a comma. -/
def isComma : Token → Bool
  | .flowEntry => true
  | _ => false

/-- Whether a token starts a key. -/
def isKey : Token → Bool
  | .key => true
  | _ => false

/-- Whether a token is the colon before a value. -/
def isValue : Token → Bool
  | .value => true
  | _ => false

/-- Whether a token is the hyphen of a block sequence. -/
def isHyphen : Token → Bool
  | .blockEntry => true
  | _ => false

/-- Whether a token ends a block collection. -/
def isBlockEnd : Token → Bool
  | .blockEnd => true
  | _ => false

/-- Whether a token is a closing bracket. -/
def isBracketEnd : Token → Bool
  | .flowSequenceEnd => true
  | _ => false

/-- Whether a token is a closing brace. -/
def isBraceEnd : Token → Bool
  | .flowMappingEnd => true
  | _ => false

/-- The anchor here, if there is one. -/
def anchor? : Reading (Option String) := do
  match ← peek with
  | some (.anchor name) =>
    advance
    return some name
  | _ => return none

/-- The tag here, if there is one. -/
def tag? : Reading (Option (Option String × String)) := do
  match ← peek with
  | some (.tag handle suffix) =>
    advance
    return some (handle, suffix)
  | _ => return none

/-- The full name of a tag. Its handle has to be declared. -/
def fullName (tag : Option String × String) : Reading String := do
  match tag with
  | (none, suffix) => return suffix
  | (some handle, suffix) =>
    match (← get).handles.lookup handle with
    | some start => return start ++ suffix
    | none => malformed

/-- The tag of a collection: the one given, or the usual one. -/
def collectionTag (tag : Option String) (usual : Tag) : Tag :=
  match tag with
  | none => usual
  | some name => if name == "!" then usual else .ofName name

/-- The tag of a scalar: the one given, or what its form says. Quoted ones without a tag are
texts. -/
def scalarTag (tag : Option String) (plain : Bool) (content : String) : Tag :=
  match tag with
  | none => if plain then implicitTag content else .text
  | some name => if name == "!" then implicitTag content else .ofName name

/-- Begin a node, which an anchor may stand for: its number. -/
def begin (anchor : Option String) : Reading Nat := fun s =>
  let anchors := match anchor with
    | none => s.anchors
    | some name => (name, s.count) :: s.anchors
  .ok (s.count, { s with anchors, count := s.count + 1 })

/-- Say what the node of a number is. -/
def define (n : Nat) (node : Node) : Reading Unit :=
  modify fun s => { s with nodes := (n, node) :: s.nodes }

/-- The most collections that may stand inside one another, with two calls of the interpreter for
each. -/
def maxDepth : Nat := (Interpreter.maxCalls - 24) / 2

/-- Read inside a further collection. -/
def inside {α : Type} (content : Reading α) : Reading α := do
  if maxDepth ≤ (← get).depth then throw (.tooDeep "")
  modify fun s => { s with depth := s.depth + 1 }
  let a ← content
  modify fun s => { s with depth := s.depth - 1 }
  return a

/-- A node that is read at once, which an anchor may stand for. -/
def whole (anchor : Option String) (node : Node) : Reading Nat := do
  let n ← begin anchor
  define n node
  return n

/-- The node of a number that an alias refers to. -/
def referred (name : String) : Reading Nat := do
  match (← get).anchors.lookup name with
  | some n => return n
  | none => malformed

/-- The kinds of nodes that a token can begin. -/
inductive Beginning where
  /-- A scalar. -/
  | scalar (text : String) (plain : Bool)
  /-- A sequence in brackets. -/
  | flowSequence
  /-- A mapping in braces. -/
  | flowMapping
  /-- A sequence whose items are indented. -/
  | blockSequence
  /-- A mapping whose keys are indented. -/
  | blockMapping
  /-- A sequence that is indented no further than the mapping around it. -/
  | inlineSequence
  /-- Nothing at all. -/
  | nothing

/-- What begins with a token, where block collections can only begin if `block`, and a sequence that
is indented no further than the mapping around it only if `inline`. -/
def beginning (block inline : Bool) : Option Token → Beginning
  | some (.scalar text plain) => .scalar text plain
  | some .flowSequenceStart => .flowSequence
  | some .flowMappingStart => .flowMapping
  | some .blockSequenceStart => if block then .blockSequence else .nothing
  | some .blockMappingStart => if block then .blockMapping else .nothing
  | some .blockEntry => if inline then .inlineSequence else .nothing
  | _ => .nothing

mutual

/-- The node here. Block collections are read only if `block`, and a sequence that is indented no
further than the mapping around it only if `inline`. -/
def read (block inline : Bool) : (fuel : Nat) → Reading Nat
  | 0 => malformed
  | fuel + 1 => do
    if let some (.alias name) := ← peek then
      advance
      referred name
    else
      let first ← anchor?
      let given ← tag?
      let anchor ← if first.isSome then pure first else anchor?
      let tag ← given.mapM fullName
      let kind := beginning block inline (← peek)
      if let some name := anchor then
        if ((← get).anchors.lookup name).isSome then malformed
      let sequence (items : Reading (List Nat)) : Reading Nat := do
        let n ← begin anchor
        define n ⟨collectionTag tag .sequence, .sequence (← inside items)⟩
        return n
      let mapping (entries : Reading (List (Nat × Nat))) : Reading Nat := do
        let n ← begin anchor
        define n ⟨collectionTag tag .mapping, .mapping (← inside entries)⟩
        return n
      match kind with
      | .scalar text plain =>
        advance
        whole anchor ⟨scalarTag tag plain text, .scalar text⟩
      | .flowSequence => sequence (do advance; flowItems [] fuel)
      | .flowMapping => mapping (do advance; flowEntries [] fuel)
      | .blockSequence => sequence (do advance; blockItems [] fuel)
      | .blockMapping => mapping (do advance; blockEntries [] fuel)
      | .inlineSequence => sequence (inlineItems [] fuel)
      | .nothing =>
        if anchor.isNone && tag.isNone then malformed
        else whole anchor ⟨scalarTag tag true "", .scalar ""⟩

/-- The node here, or the empty one before a token that ends it. -/
def readUnless (ends : Token → Bool) (block inline : Bool) : (fuel : Nat) → Reading Nat
  | 0 => malformed
  | fuel + 1 => do if ← next ends then whole none .empty else read block inline fuel

/-- The items of a block sequence to its end, behind those in `before`, last first. -/
def blockItems (before : List Nat) : (fuel : Nat) → Reading (List Nat)
  | 0 => malformed
  | fuel + 1 => do
    if ← accept isHyphen then
      let n ← readUnless endsItem true false fuel
      blockItems (n :: before) fuel
    else
      require isBlockEnd
      return before.reverse

/-- The items of a sequence that is indented no further than the mapping around it, behind those in
`before`, last first. -/
def inlineItems (before : List Nat) : (fuel : Nat) → Reading (List Nat)
  | 0 => malformed
  | fuel + 1 => do
    if ← accept isHyphen then
      let n ← readUnless endsInlineItem true false fuel
      inlineItems (n :: before) fuel
    else return before.reverse

/-- The entries of a block mapping to its end, behind those in `before`, last first. -/
def blockEntries (before : List (Nat × Nat)) : (fuel : Nat) → Reading (List (Nat × Nat))
  | 0 => malformed
  | fuel + 1 => do
    if ← accept isKey then
      let k ← readUnless endsEntry true true fuel
      let v ← if ← accept isValue then readUnless endsEntry true true fuel else whole none .empty
      blockEntries ((k, v) :: before) fuel
    else
      require isBlockEnd
      return before.reverse

/-- The items of a sequence in brackets to its end, behind those in `before`, last first. An item
with a colon is a mapping of one entry. -/
def flowItems (before : List Nat) : (fuel : Nat) → Reading (List Nat)
  | 0 => malformed
  | fuel + 1 => do
    if ← accept isBracketEnd then return before.reverse
    else
      if !before.isEmpty then require isComma
      if ← accept isKey then
        let n ← begin none
        let entry ← inside do
          let k ← readUnless (fun t => isValue t || endsFlow isBracketEnd t) false false fuel
          return (k, ← flowValue isBracketEnd fuel)
        define n ⟨.mapping, .mapping [entry]⟩
        flowItems (n :: before) fuel
      else if ← accept isBracketEnd then return before.reverse
      else
        let n ← read false false fuel
        flowItems (n :: before) fuel

/-- The value behind a key between brackets or braces, empty without a colon. -/
def flowValue (closing : Token → Bool) : (fuel : Nat) → Reading Nat
  | 0 => malformed
  | fuel + 1 => do
    if ← accept isValue then readUnless (endsFlow closing) false false fuel else whole none .empty

/-- The entries of a mapping in braces to its end, behind those in `before`, last first. -/
def flowEntries (before : List (Nat × Nat)) : (fuel : Nat) → Reading (List (Nat × Nat))
  | 0 => malformed
  | fuel + 1 => do
    if ← accept isBraceEnd then return before.reverse
    else
      if !before.isEmpty then require isComma
      if ← accept isKey then
        let k ← readUnless (fun t => isValue t || endsFlow isBraceEnd t) false false fuel
        let v ← flowValue isBraceEnd fuel
        flowEntries ((k, v) :: before) fuel
      else if ← accept isBraceEnd then return before.reverse
      else
        let k ← read false false fuel
        flowEntries ((k, ← whole none .empty) :: before) fuel

end

/-- The tag handles that the directives here declare, beside some others. At most one may name a
version, which has to be a version 1, and no handle may be declared twice. -/
def directives (version : Bool) (handles : List (String × String)) :
    (fuel : Nat) → Reading (List (String × String))
  | 0 => malformed
  | fuel + 1 => do
    match ← peek with
    | some (.directive d) =>
      advance
      match d with
      | .version major =>
        if version || major != 1 then malformed else directives true handles fuel
      | .tagHandle handle start =>
        if (handles.lookup handle).isSome then malformed
        else directives version ((handle, start) :: handles) fuel
      | .other => directives version handles fuel
    | _ => return handles

/-- The handles that need no declaration. -/
def usualHandles : List (String × String) := [("!", "!"), ("!!", tagStart)]

/-- Whether a token begins a document with directives or a marker in front. -/
def isFront : Token → Bool
  | .directive _ | .documentStart => true
  | _ => false

/-- Whether a token is the marker at the start of a document. -/
def isStart : Token → Bool
  | .documentStart => true
  | _ => false

/-- Whether a token is the marker at the end of a document. -/
def isEnd : Token → Bool
  | .documentEnd => true
  | _ => false

/-- Go behind the markers at the end of a document. -/
def skipEnds : (fuel : Nat) → Reading Unit
  | 0 => malformed
  | fuel + 1 => do if ← accept isEnd then skipEnds fuel

/-- Nothing may follow a document but its end. What stands there is read as the front of a further
document, so that its own faults come first. -/
def endOfText (fuel : Nat) : Reading Unit := do
  skipEnds fuel
  if (← peek).isSome then
    let _ ← directives false [] fuel
    let _ ← peek
    malformed

/-- The number of the root node, none when there is no document. -/
def root (fuel : Nat) : Reading (Option Nat) := do
  match ← peek with
  | none => return none
  | some t =>
    let n ← (
      if isFront t then do
        let handles ← directives false [] fuel
        require isStart
        modify fun s => { s with handles := handles ++ usualHandles }
        if (← peek).all fun t => isFront t || isEnd t then whole none .empty
        else read true false fuel
      else read true false fuel)
    endOfText fuel
    return some n

/-- The nodes of a text and the number of the root, none when it holds no document. -/
def ofSource (s : Source) : Except Fault (Option Nat × Graph) := do
  let fuel := 16 * s.chars.length + 64
  let (n, r) ← (root fuel).run ⟨.start s, usualHandles, [], [], 0, 0⟩
  return (n, Std.TreeMap.ofList r.nodes)

end Node

end RequestAuth.Yaml
