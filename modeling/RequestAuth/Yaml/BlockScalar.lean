import RequestAuth.Yaml.Cursor

/-!
# Block scalars

A scalar on the lines below its indicator, literal (`|`) or folded (`>`). Its indentation is given
behind the indicator or taken from its first line. Folding turns a single line break between two
lines that start with a visible character into a blank. The last break is kept once, kept with all
that follow it (`+`), or dropped (`-`).
-/

namespace RequestAuth.Yaml

/-- What happens to the line breaks at the end of a block scalar. -/
inductive Chomping where
  /-- The last break is kept. -/
  | clip
  /-- No break is kept. -/
  | strip
  /-- All breaks are kept. -/
  | keep
  deriving DecidableEq

/-- The chomping that a sign asks for. -/
def chomping? (c : Char) : Option Chomping :=
  if c == '+' then some .keep else if c == '-' then some .strip else none

/-- The indentation that a digit asks for: none when it is no digit, a fault when it is zero. -/
def indentDigit (c : Char) : Except Fault (Option Nat) :=
  if c == '0' then .error .yamlMalformed
  else if '1' ≤ c ∧ c ≤ '9' then .ok (some (c.toNat - 48))
  else .ok none

/-- The chomping and the indentation behind the indicator, in either order. -/
def blockHeader (c : Cursor) : Except Fault (Chomping × Option Nat × Cursor) := do
  let (sign, digit, c) ← (do
    match chomping? (← c.peek) with
    | some sign =>
      let c := c.next
      match ← indentDigit (← c.peek) with
      | some n => return (sign, some n, c.next)
      | none => return (sign, none, c)
    | none =>
      match ← indentDigit (← c.peek) with
      | none => return (Chomping.clip, none, c)
      | some n =>
        let c := c.next
        match chomping? (← c.peek) with
        | some sign => return (sign, some n, c.next)
        | none => return (Chomping.clip, some n, c))
  if isBlankOrEnd (← c.peek) then return (sign, digit, c) else throw .yamlMalformed

/-- The line breaks from a place on and the greatest column reached by the blanks before and between
them. -/
def leadingBreaks (column : Nat) : (fuel : Nat) → Cursor → Except Fault (List Char × Nat × Cursor)
  | 0, c => .ok ([], column, c)
  | fuel + 1, c => do
    let (blanks, c) ← c.span (· == ' ')
    let column := if blanks.isEmpty then column else max column c.column
    match ← c.lineBreak? with
    | none => return ([], column, c)
    | some (ch, c) =>
      let (breaks, column, c) ← leadingBreaks column fuel c
      return (ch :: breaks, column, c)

/-- The place behind the blanks that belong to an indentation. -/
def skipIndent (indent : Nat) : (fuel : Nat) → Cursor → Except Fault Cursor
  | 0, c => .ok c
  | fuel + 1, c => do
    if c.column < indent then
      if (← c.peek) == ' ' then skipIndent indent fuel c.next else return c
    else return c

/-- The empty lines from a place on, each as its line break, blanks of the indentation skipped. -/
def emptyLines (indent : Nat) : (fuel : Nat) → Cursor → Except Fault (List Char × Cursor)
  | 0, c => .ok ([], c)
  | fuel + 1, c => do
    let c ← skipIndent indent (indent + 1) c
    match ← c.lineBreak? with
    | none => return ([], c)
    | some (ch, c) =>
      let (breaks, c) ← emptyLines indent fuel c
      return (ch :: breaks, c)

/-- Whether a line of a block scalar goes on at a place. -/
def atLine (indent : Nat) (c : Cursor) : Except Fault Bool := do
  if c.column = indent then c.at? (· != endMark) else return false

/-- Whether the character at a place is no blank and no tab. -/
def isVisible (c : Cursor) : Except Fault Bool := c.at? fun ch => ch != ' ' && ch != '\t'

/-- The lines of a block scalar from a place on: the pieces of the text behind those in `read`, last
first, the line break behind the last line and the empty lines behind that. `breaks` are the empty
lines before the place. -/
def blockLines (folded : Bool) (indent : Nat) (read : List (List Char)) (breaks : List Char) :
    (fuel : Nat) → Cursor → Except Fault (List (List Char) × List Char × List Char × Cursor)
  | 0, c => .ok (read, [], breaks, c)
  | fuel + 1, c => do
    if ← atLine indent c then
      let visible ← isVisible c
      let (line, c) ← c.span fun ch => !isBreakOrEnd ch
      let (lineBreak, c) := match ← c.lineBreak? with
        | some (ch, c) => ([ch], c)
        | none => ([], c)
      let (after, c) ← emptyLines indent (c.left + 1) c
      let read := line :: breaks :: read
      if ← atLine indent c then
        let folds := folded && lineBreak == ['\n'] && visible && (← isVisible c)
        let joint := if folds then (if after.isEmpty then [' '] else []) else lineBreak
        blockLines folded indent (joint :: read) after fuel c
      else return (read, lineBreak, after, c)
    else return (read, [], breaks, c)

/-- The block scalar at a place inside a collection indented to `parent`. -/
def blockScalar (folded : Bool) (parent : Int) (c : Cursor) : Except Fault (String × Cursor) := do
  let (chomping, digit, c) ← blockHeader c.next
  let c ← c.endOfLine
  let least := (max (parent + 1) 1).toNat
  let (indent, breaks, c) ← (
    match digit with
    | some n => do
      let indent := least + n - 1
      let (breaks, c) ← emptyLines indent (c.left + 1) c
      return (indent, breaks, c)
    | none => do
      let (breaks, column, c) ← leadingBreaks 0 (c.left + 1) c
      return (max least column, breaks, c))
  let (read, last, tail, c) ← blockLines folded indent [] breaks (c.left + 1) c
  let ending := match chomping with
    | .strip => []
    | .clip => last
    | .keep => last ++ tail
  return (String.ofList (read.reverse.flatten ++ ending), c)

end RequestAuth.Yaml
