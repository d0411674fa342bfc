import RequestAuth.Yaml.Property
import RequestAuth.Yaml.PlainScalar
import RequestAuth.Yaml.FlowScalar
import RequestAuth.Yaml.BlockScalar

/-!
# From text to tokens

The text is read token by token, and no further than it has to be to know the next one
(`Lexer.peek`). Indentation is made explicit: a token that stands further right than the collection
around it opens a block collection, and one further left closes those it has left. A node may turn
out to be a key only when a colon follows it on its line, at most 1024 characters on; the tokens
that say so are then put in front of the node.
-/

namespace RequestAuth.Yaml

/-- A node that becomes a key when a colon follows. -/
structure PendingKey where
  /-- The tokens before the node. -/
  tokensBefore : Nat
  /-- Whether the node can be nothing but a key, because a mapping goes on here. -/
  required : Bool
  /-- The characters before the node. -/
  index : Nat
  /-- The lines before the node. -/
  line : Nat
  /-- The column where the node begins. -/
  column : Nat

/-- Whether a pending key has become impossible at a place. -/
def PendingKey.isStale (k : PendingKey) (c : Cursor) : Bool :=
  k.line != c.line || 1024 < c.index - k.index

/-- The state of reading tokens. -/
structure Lexer where
  /-- The place in the text. -/
  cursor : Cursor
  /-- The tokens that are read but not taken. -/
  queue : List Token
  /-- The count of the tokens that are taken. -/
  taken : Nat
  /-- The count of all tokens so far. -/
  made : Nat
  /-- Whether the end of the text is reached. -/
  isEnded : Bool
  /-- The open brackets and braces. -/
  flowLevel : Nat
  /-- The indentation of the innermost block collection, -1 outside of all. -/
  indent : Int
  /-- The indentations of the collections around it, innermost first. -/
  outer : List Int
  /-- Whether a key may begin here. -/
  keyAllowed : Bool
  /-- The pending keys, at most one for each level of brackets. -/
  pending : List (Nat × PendingKey)

namespace Lexer

/-- The state before the first token. A byte-order mark in front of it is skipped. -/
def start (s : Source) : Lexer :=
  let c := Cursor.start s
  let c := if c.rest.head? == some byteOrderMark then c.next else c
  ⟨c, [], 0, 0, false, 0, -1, [], true, []⟩

/-- Whether the place lies inside brackets or braces. -/
def inFlow (x : Lexer) : Bool := x.flowLevel != 0

/-- The state with one more token. -/
def push (x : Lexer) (t : Token) : Lexer :=
  { x with queue := x.queue ++ [t], made := x.made + 1 }

/-- The state with one more token in front of the one that has some number of tokens before it. -/
def insert (x : Lexer) (position : Nat) (t : Token) : Lexer :=
  { x with queue := x.queue.insertIdx (position - x.taken) t, made := x.made + 1 }

/-- The state with one more token, the place behind it and whether a key may follow. -/
def emit (x : Lexer) (t : Token) (c : Cursor) (keyAllowed : Bool) : Except Fault Lexer := do
  let _ ← c.peek
  return { x.push t with cursor := c, keyAllowed }

/-- Skip blanks, comments and line breaks. A line break in a block lets a key begin. -/
def skipToToken : (fuel : Nat) → Lexer → Except Fault Lexer
  | 0, x => .ok x
  | fuel + 1, x => do
    let c ← (← x.cursor.skipWhile (· == ' ')).skipComment
    match ← c.lineBreak? with
    | some (_, c) =>
      skipToToken fuel { x with cursor := c, keyAllowed := x.keyAllowed || !x.inFlow }
    | none => return { x with cursor := c }

/-- Forget the pending keys that have become impossible; a required one among them is a fault. -/
def dropStale (x : Lexer) : Except Fault Lexer :=
  let (stale, fresh) := x.pending.partition fun k => k.2.isStale x.cursor
  if stale.any fun k => k.2.required then .error .yamlMalformed
  else .ok { x with pending := fresh }

/-- Forget the pending key of the current level; a required one is a fault. -/
def dropKey (x : Lexer) : Except Fault Lexer :=
  match x.pending.lookup x.flowLevel with
  | some k =>
    if k.required then .error .yamlMalformed
    else .ok { x with pending := x.pending.filter fun k => k.1 != x.flowLevel }
  | none => .ok x

/-- Note that the node here may become a key. -/
def saveKey (x : Lexer) : Except Fault Lexer :=
  if x.keyAllowed then do
    let x ← x.dropKey
    let required := !x.inFlow && x.indent == x.cursor.column
    let key : PendingKey := ⟨x.made, required, x.cursor.index, x.cursor.line, x.cursor.column⟩
    return { x with pending := (x.flowLevel, key) :: x.pending }
  else .ok x

/-- Close the block collections that are indented further than a column. -/
def unwind (column : Int) : (outer : List Int) → Lexer → Lexer
  | [], x => x
  | i :: outer, x =>
    if x.inFlow || x.indent ≤ column then x
    else unwind column outer { x.push .blockEnd with indent := i, outer }

/-- Close the block collections that a column has left. -/
def unwindTo (column : Int) (x : Lexer) : Lexer := unwind column x.outer x

/-- Open a block collection at a column when it stands further right than the innermost one; `t`
goes before the token at `position`. -/
def openBlock (x : Lexer) (column position : Nat) (t : Token) : Lexer :=
  if x.indent < column then
    { x.insert position t with indent := column, outer := x.indent :: x.outer }
  else x

/-- Open a block collection for an indicator here, where outside of brackets one must be allowed. -/
def indicatorBlock (x : Lexer) (t : Token) : Except Fault Lexer :=
  if x.inFlow then .ok x
  else if x.keyAllowed then .ok (x.openBlock x.cursor.column x.made t)
  else .error .yamlMalformed

/-- The colon before a value: the pending key becomes a key, or the key is empty. -/
def valueIndicator (x : Lexer) : Except Fault Lexer :=
  match x.pending.lookup x.flowLevel with
  | some k =>
    let x := { x with pending := x.pending.filter fun k => k.1 != x.flowLevel }
    let x := x.insert k.tokensBefore .key
    let x := if x.inFlow then x else x.openBlock k.column k.tokensBefore .blockMappingStart
    x.emit .value x.cursor.next false
  | none => do
    let x ← x.indicatorBlock .blockMappingStart
    let x ← x.dropKey
    x.emit .value x.cursor.next !x.inFlow

/-- A document marker or directive: it closes all block collections. -/
def outermost (x : Lexer) : Except Fault Lexer := (x.unwindTo (-1)).dropKey

/-- The characters that no plain scalar begins with, some of them only with a blank behind. -/
def indicators : List Char := "-?:,[]\x7b\x7d#&*!|>'\"%@\x60".toList

/-- Whether the character behind a place is a blank or tab, or ends a line or the text. -/
def isApart (c : Cursor) : Except Fault Bool := do return isSpaceOrEnd (← c.peekAt 1)

/-- An opening bracket or brace. -/
def openFlow (x : Lexer) (t : Token) : Except Fault Lexer := do
  let x ← x.saveKey
  let x := { x with flowLevel := x.flowLevel + 1 }
  x.emit t x.cursor.next true

/-- A closing bracket or brace. -/
def closeFlow (x : Lexer) (t : Token) : Except Fault Lexer := do
  let x ← x.dropKey
  if x.flowLevel = 0 then throw .yamlMalformed
  let x := { x with flowLevel := x.flowLevel - 1 }
  x.emit t x.cursor.next false

/-- A token that may begin a key. -/
def nodeToken (x : Lexer) (read : Cursor → Except Fault (Token × Cursor)) : Except Fault Lexer := do
  let x ← x.saveKey
  let (t, c) ← read x.cursor
  x.emit t c false

/-- The plain scalar here. -/
def plainToken (x : Lexer) : Except Fault Lexer := do
  let x ← x.saveKey
  let (s, broken, c) ← plainScalar x.inFlow (x.indent + 1) x.cursor
  x.emit (.scalar s true) c broken

/-- The token that a hyphen, a question mark or a colon is, or the plain scalar that it begins. -/
def indicatorToken (x : Lexer) (ch : Char) : Except Fault Lexer := do
  let c := x.cursor
  if ch == '-' then
    if ← isApart c then
      let x ← (← x.indicatorBlock .blockSequenceStart).dropKey
      x.emit .blockEntry c.next true
    else x.plainToken
  else if ch == '?' then
    if ← pure x.inFlow <||> isApart c then
      let x ← (← x.indicatorBlock .blockMappingStart).dropKey
      x.emit .key c.next !x.inFlow
    else x.plainToken
  else
    if ← pure x.inFlow <||> isApart c then x.valueIndicator else x.plainToken

/-- The token that begins at the current place, which is not the end. -/
def readToken (x : Lexer) : Except Fault Lexer := do
  let c := x.cursor
  let ch ← c.peek
  if ch == '%' && c.column == 0 then
    let x ← x.outermost
    let (t, c) ← directive c
    x.emit t c false
  else if ← pure ((ch == '-' || ch == '.') && c.column == 0) <&&> c.atMarker then
    let x ← x.outermost
    x.emit (if ch == '-' then .documentStart else .documentEnd) (c.skip 3) false
  else if ch == '[' then x.openFlow .flowSequenceStart
  else if ch == '{' then x.openFlow .flowMappingStart
  else if ch == ']' then x.closeFlow .flowSequenceEnd
  else if ch == '}' then x.closeFlow .flowMappingEnd
  else if ch == ',' then
    let x ← x.dropKey
    x.emit .flowEntry c.next true
  else if ch == '-' || ch == '?' || ch == ':' then x.indicatorToken ch
  else if ch == '*' then
    x.nodeToken fun c => do
      let (name, c) ← anchorName c
      return (.alias name, c)
  else if ch == '&' then
    x.nodeToken fun c => do
      let (name, c) ← anchorName c
      return (.anchor name, c)
  else if ch == '!' then x.nodeToken tag
  else if (ch == '|' || ch == '>') && !x.inFlow then
    let x ← x.dropKey
    let (s, c) ← blockScalar (ch == '>') x.indent c
    x.emit (.scalar s false) c true
  else if ch == '\'' || ch == '\"' then
    x.nodeToken fun c => do
      let (s, c) ← flowScalar (ch == '\"') c
      return (.scalar s false, c)
  else if isSpaceOrEnd ch || indicators.contains ch then throw .yamlMalformed
  else x.plainToken

/-- Read the next token, or note that there is none. -/
def fetch (x : Lexer) : Except Fault Lexer := do
  let x ← (← x.skipToToken (x.cursor.left + 1)).dropStale
  let x := x.unwindTo x.cursor.column
  if (← x.cursor.peek) == endMark then
    let x ← x.outermost
    return { x with isEnded := true, pending := [] }
  else x.readToken

/-- Read tokens until the first that is not taken is known: there is one, and no colon can make it a
key any more. -/
def fill : (fuel : Nat) → Lexer → Except Fault Lexer
  | 0, x => .ok x
  | fuel + 1, x => do
    if x.isEnded then return x
    else if x.queue.isEmpty then fill fuel (← x.fetch)
    else
      let x ← x.dropStale
      if x.pending.any fun k => k.2.tokensBefore == x.taken then fill fuel (← x.fetch) else return x

/-- The next token, none at the end, and the state in which it is known. -/
def peek (x : Lexer) : Except Fault (Option Token × Lexer) := do
  let x ← x.fill (x.cursor.left + 2)
  return (x.queue.head?, x)

/-- Take the next token. -/
def advance (x : Lexer) : Lexer :=
  match x.queue with
  | [] => x
  | _ :: queue => { x with queue, taken := x.taken + 1 }

end Lexer

end RequestAuth.Yaml
