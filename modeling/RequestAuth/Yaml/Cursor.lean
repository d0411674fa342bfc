import RequestAuth.Yaml.Source

/-!
# A place in a YAML text

The characters still to be read, with the line and column of the first of them. Line breaks are the
line feed, the next-line character and the two Unicode separators. Past the end the text reads as
the null character, which no text contains; where the text cannot be read, looking is a fault.
-/

namespace RequestAuth.Yaml

/-- The null character, read past the end. -/
def endMark : Char := '\x00'

/-- The byte-order mark, which takes no column. -/
def byteOrderMark : Char := '\uFEFF'

/-- Whether a character ends a line. -/
def isBreak (c : Char) : Bool := c == '\n' || c == '\x85' || c == '\u2028' || c == '\u2029'

/-- Whether a character ends a line or the text. -/
def isBreakOrEnd (c : Char) : Bool := isBreak c || c == endMark

/-- Whether a character is a blank, or ends a line or the text. -/
def isBlankOrEnd (c : Char) : Bool := c == ' ' || isBreakOrEnd c

/-- Whether a character is a blank or tab, or ends a line or the text. -/
def isSpaceOrEnd (c : Char) : Bool := c == '\t' || isBlankOrEnd c

/-- Whether a character may stand in the name of an anchor, a directive or a tag handle. -/
def isWordChar (c : Char) : Bool :=
  ('0' ≤ c && c ≤ '9') || ('A' ≤ c && c ≤ 'Z') || ('a' ≤ c && c ≤ 'z') || c == '-' || c == '_'

/-- A place in the text. -/
structure Cursor where
  /-- The characters from here on, as far as they can be read. -/
  rest : List Char
  /-- What prevents reading on behind them, if anything does. -/
  fault? : Option Fault
  /-- The count of these characters. -/
  left : Nat
  /-- The characters before. -/
  index : Nat
  /-- The lines before. -/
  line : Nat
  /-- The characters before on the same line. -/
  column : Nat

namespace Cursor

/-- The start of a text. -/
def start (s : Source) : Cursor := ⟨s.chars, s.fault?, s.chars.length, 0, 0, 0⟩

/-- What is read behind the last character. -/
def atEnd (c : Cursor) : Except Fault Char :=
  match c.fault? with
  | none => .ok endMark
  | some fault => .error fault

/-- The character here. -/
def peek (c : Cursor) : Except Fault Char :=
  match c.rest with
  | ch :: _ => .ok ch
  | [] => c.atEnd

/-- The character `k` places on. -/
def peekAt (c : Cursor) (k : Nat) : Except Fault Char :=
  match c.rest[k]? with
  | some ch => .ok ch
  | none => c.atEnd

/-- Whether the character here satisfies a condition. -/
def at? (c : Cursor) (p : Char → Bool) : Except Fault Bool := do return p (← c.peek)

/-- The place behind the character here. -/
def next (c : Cursor) : Cursor :=
  match c.rest with
  | [] => c
  | ch :: rest =>
    let c := { c with rest, left := c.left - 1, index := c.index + 1 }
    if isBreak ch then { c with line := c.line + 1, column := 0 }
    else if ch == byteOrderMark then c
    else { c with column := c.column + 1 }

/-- The place `n` characters on. -/
def skip (c : Cursor) (n : Nat) : Cursor := n.repeat next c

/-- The characters from here on that satisfy a condition, and the place behind them. -/
def span (c : Cursor) (p : Char → Bool) : Except Fault (List Char × Cursor) := do
  let taken := c.rest.takeWhile p
  let c := c.skip taken.length
  let _ ← c.peek
  return (taken, c)

/-- The place behind the characters that satisfy a condition. -/
def skipWhile (c : Cursor) (p : Char → Bool) : Except Fault Cursor := do return (← c.span p).2

/-- The line break here, as the text it stands for, and the place behind it. -/
def lineBreak? (c : Cursor) : Except Fault (Option (Char × Cursor)) := do
  let ch ← c.peek
  if ch == '\n' || ch == '\x85' then return some ('\n', c.next)
  else if ch == '\u2028' || ch == '\u2029' then return some (ch, c.next)
  else return none

/-- The place behind the line break here, if there is one. -/
def skipLineBreak (c : Cursor) : Except Fault Cursor := do
  return ((← c.lineBreak?).map Prod.snd).getD c

/-- Whether one of the two document markers stands here. -/
def atMarker (c : Cursor) : Except Fault Bool := do
  if c.left < 3 then let _ ← c.atEnd
  if ['-', '-', '-'].isPrefixOf c.rest || ['.', '.', '.'].isPrefixOf c.rest then
    return isSpaceOrEnd (← c.peekAt 3)
  else return false

/-- The place behind the comment here, if there is one. -/
def skipComment (c : Cursor) : Except Fault Cursor := do
  if (← c.peek) == '#' then c.skipWhile fun ch => !isBreakOrEnd ch else return c

/-- The place behind the blanks and the comment that may end a line; anything else there is a
fault. -/
def endOfLine (c : Cursor) : Except Fault Cursor := do
  let c ← (← c.skipWhile (· == ' ')).skipComment
  if isBreakOrEnd (← c.peek) then c.skipLineBreak else throw .yamlMalformed

end Cursor

end RequestAuth.Yaml
