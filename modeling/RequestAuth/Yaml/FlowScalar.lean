import RequestAuth.Yaml.Cursor
import RequestAuth.Text.Hex

/-!
# Quoted scalars

Between single quotes only the quote itself is escaped, by writing it twice. Between double quotes a
backslash starts an escape: of a control character, of a character by its code, or of a line break.
In both a line break becomes a blank and further breaks stay.

A code for half of a surrogate pair is read as the replacement character.
-/

namespace RequestAuth.Yaml

/-- The character that an escape by letter stands for. -/
def letterEscape? : Char → Option Char
  | '0' => some '\x00'
  | 'a' => some '\x07'
  | 'b' => some '\x08'
  | 't' => some '\t'
  | '\t' => some '\t'
  | 'n' => some '\n'
  | 'v' => some '\x0b'
  | 'f' => some '\x0c'
  | 'r' => some '\r'
  | 'e' => some '\x1b'
  | ' ' => some ' '
  | '\"' => some '\"'
  | '\\' => some '\\'
  | '/' => some '/'
  | 'N' => some '\x85'
  | '_' => some '\xa0'
  | 'L' => some '\u2028'
  | 'P' => some '\u2029'
  | _ => none

/-- The count of digits behind the letter of an escape by code. -/
def codeLength? : Char → Option Nat
  | 'x' => some 2
  | 'u' => some 4
  | 'U' => some 8
  | _ => none

/-- The character of a code. -/
def codeChar (n : Nat) : Except Fault Char :=
  if 0x7FFFFFFF < n then .error (.outOfRange "no character has so large a code")
  else if 0x10FFFF < n then .error (.valueInvalid "no character has the code")
  else if 0xD800 ≤ n ∧ n ≤ 0xDFFF then .ok (Char.ofNat 0xFFFD)
  else .ok (Char.ofNat n)

/-- Whether a character is a blank or a tab. -/
def isSpace (c : Char) : Bool := c == ' ' || c == '\t'

/-- The line breaks from a place on, blanks and tabs around them skipped. A document marker at the
start of a line is a fault. -/
def flowBreaks : (fuel : Nat) → Cursor → Except Fault (List Char × Cursor)
  | 0, c => .ok ([], c)
  | fuel + 1, c => do
    if ← c.atMarker then throw .yamlMalformed
    let c ← c.skipWhile isSpace
    match ← c.lineBreak? with
    | none => return ([], c)
    | some (ch, c) =>
      let (breaks, c) ← flowBreaks fuel c
      return (ch :: breaks, c)

/-- What the blanks, tabs and line breaks at a place stand for. -/
def flowGap (c : Cursor) : Except Fault (List Char × Cursor) := do
  let (blanks, c) ← c.span isSpace
  if (← c.peek) == endMark then throw .yamlMalformed
  match ← c.lineBreak? with
  | none => return (blanks, c)
  | some (first, c) =>
    let (breaks, c) ← flowBreaks (c.left + 1) c
    if first != '\n' then return (first :: breaks, c)
    else if breaks.isEmpty then return ([' '], c)
    else return (breaks, c)

/-- The number that the next hexadecimal digits spell, behind a number. -/
def codeDigits (value : Nat) : (count : Nat) → Cursor → Except Fault (Nat × Cursor)
  | 0, c => .ok (value, c)
  | count + 1, c => do
    match Text.hexValue? (← c.peek) with
    | some d => codeDigits (16 * value + d) count c.next
    | none => throw .yamlMalformed

/-- What the escape behind a backslash stands for. -/
def flowEscape (c : Cursor) : Except Fault (List Char × Cursor) := do
  let ch ← c.peek
  match letterEscape? ch, codeLength? ch with
  | some meant, _ => return ([meant], c.next)
  | none, some n =>
    let (code, c) ← codeDigits 0 n c.next
    return ([← codeChar code], c)
  | none, none =>
    match ← c.lineBreak? with
    | some (_, c) => flowBreaks (c.left + 1) c
    | none => throw .yamlMalformed

/-- Whether a character stands for itself wherever it stands in a quoted scalar. -/
def isFlowPlain (c : Char) : Bool := c != '\'' && c != '\"' && c != '\\' && !isSpaceOrEnd c

/-- The content of a quoted scalar from a place on, and the place behind the closing quote. The
pieces read so far are in `read`, last first. -/
def flowContent (double : Bool) (read : List (List Char)) :
    (fuel : Nat) → Cursor → Except Fault (List (List Char) × Cursor)
  | 0, _ => .error .yamlMalformed
  | fuel + 1, c => do
    let (plain, c) ← c.span isFlowPlain
    let read := plain :: read
    let ch ← c.peek
    if ch == (if double then '\"' else '\'') then
      if !double && (← c.peekAt 1) == '\'' then flowContent double (['\''] :: read) fuel (c.skip 2)
      else return (read, c.next)
    else if isSpaceOrEnd ch then
      let (gap, c) ← flowGap c
      flowContent double (gap :: read) fuel c
    else if double && ch == '\\' then
      let (s, c) ← flowEscape c.next
      flowContent double (s :: read) fuel c
    else flowContent double ([ch] :: read) fuel c.next

/-- The quoted scalar at a place. -/
def flowScalar (double : Bool) (c : Cursor) : Except Fault (String × Cursor) := do
  let (read, c) ← flowContent double [] (c.left + 1) c.next
  return (String.ofList read.reverse.flatten, c)

end RequestAuth.Yaml
