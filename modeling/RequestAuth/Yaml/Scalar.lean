import RequestAuth.Yaml.Implicit
import RequestAuth.Text.Base64
import RequestAuth.Text.Case

/-!
# The values of scalars

What the text of a scalar stands for under each tag. A text that has the form but not the value of
its tag is a fault of the value; one without the form is, by tag, a missing table entry, a missing
member or malformed YAML.
-/

namespace RequestAuth.Yaml

/-- The text without underscores. -/
def withoutMarks (s : List Char) : List Char := s.filter (· != '_')

/-- A fault when a text spells no number. -/
def spelled {α : Type} (n : Option α) : Except Fault α :=
  match n with
  | some n => .ok n
  | none => .error (.valueInvalid "the text spells no number")

/-- Whether a text begins with a minus, and what is behind its sign. A text without characters is a
fault of its own. -/
def signed : List Char → Except Fault (Bool × List Char)
  | [] => .error .textEmpty
  | '-' :: rest => .ok (true, rest)
  | '+' :: rest => .ok (false, rest)
  | s => .ok (false, s)

/-- The integer that a text spells without its sign: binary, hexadecimal, octal, in base 60 or
decimal. -/
def unsignedInteger : List Char → Except Fault Int
  | [] => .error .textEmpty
  | ['0'] => .ok 0
  | '0' :: 'b' :: rest => spelled (Text.readInt? 2 rest)
  | '0' :: 'x' :: rest => spelled (Text.readInt? 16 rest)
  | '0' :: rest => spelled (Text.readInt? 8 ('0' :: rest))
  | s =>
    if s.contains ':' then do
      let digits ← (s.splitOn ':').mapM fun part => spelled (Text.readInt? 10 part)
      return digits.foldl (fun n d => 60 * n + d) 0
    else spelled (Text.readInt? 10 s)

/-- The integer that a text spells. -/
def integer (s : List Char) : Except Fault Value := do
  let (negative, s) ← signed (withoutMarks s)
  let n ← unsignedInteger s
  return .int (if negative then -n else n)

/-- The sum of digits in base 60, the lowest first, each times its place value. A place value beyond
the doubles is out of range. -/
def sixtySum (sum : Float) (place : Nat) : List Float → Except Fault Float
  | [] => .ok sum
  | d :: rest =>
    if place < Nat.pow 2 1024 then
      sixtySum (sum + d * Decimal.toFloat false place 0) (60 * place) rest
    else .error (.outOfRange "int too large to convert to float")

/-- The double that a text in small letters spells without its sign. -/
def unsignedDouble (s : List Char) : Except Fault Float :=
  if s == ".inf".toList then .ok (Float.ofBits 0x7FF0000000000000)
  else if s.contains ':' then do
    let digits ← (s.splitOn ':').mapM fun part => spelled (Text.readDouble? part)
    sixtySum 0 1 digits.reverse
  else spelled (Text.readDouble? s)

/-- The double that a text spells. What is no number gets a mark, which is zero for the word of YAML
itself. -/
def double (mark : Nat) (s : List Char) : Except Fault Value := do
  let (negative, s) ← signed (Text.lower (withoutMarks s))
  if s == ".nan".toList then return .nan 0
  else
    let x ← unsignedDouble s
    if x.isNaN then return .nan mark else return .float (if negative then -x else x)

/-- The truth value of a word in any case. -/
def truth (s : List Char) : Except Fault Value :=
  let word := String.ofList (Text.lower s)
  if ["yes", "true", "on"].contains word then .ok (.bool true)
  else if ["no", "false", "off"].contains word then .ok (.bool false)
  else .error .entryMissing

/-- The date or moment of a text. -/
def timestamp (s : List Char) : Except Fault Value :=
  match timestamp? (Text.withoutFinalBreak s) with
  | some t => t.value
  | none => .error .memberMissing

/-- The bytes of a text in base64. -/
def binary (s : List Char) : Except Fault Value :=
  if s.all fun c => c.toNat < 128 then
    match Base64.readLoosely? s with
    | some content => .ok (.bytes content)
    | none => .error .yamlMalformed
  else .error .yamlMalformed

/-- What the text of a scalar stands for under a tag; `mark` tells one that is no number from
others. -/
def scalarValue (mark : Nat) (tag : Tag) (content : String) : Except Fault Value :=
  let s := content.toList
  match tag with
  | .null => .ok .null
  | .bool => truth s
  | .int => integer s
  | .float => double mark s
  | .binary => binary s
  | .timestamp => timestamp s
  | .text => .ok (.text content)
  | .orderedMap | .pairs | .set | .sequence | .mapping | .merge | .value | .unknown =>
    .error .yamlMalformed

end RequestAuth.Yaml
