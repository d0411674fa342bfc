import RequestAuth.Text.DigitTable
import RequestAuth.Text.Blank

/-!
# Integers written in digits

Reading an integer from a text: blanks around it are ignored, a sign may stand in front, digits of
every script count, and one underscore may stand between two digits. In the bases 2, 8 and 16 a
marker `0b`, `0o` or `0x` may stand before the digits.

A text of more than 4300 decimal digits is refused.
-/

namespace RequestAuth.Text

/-- The value of a decimal digit of any script. -/
def decimalValue? (c : Char) : Option Nat :=
  if c.toNat < 128 then
    if '0' ≤ c ∧ c ≤ '9' then some (c.toNat - 48) else none
  else
    (digitZeros.find? fun z => z ≤ c.toNat && c.toNat < z + 10).map (c.toNat - ·)

/-- The value of a digit in a base up to sixteen, letters of either case counting from ten. -/
def digitValue? (base : Nat) (c : Char) : Option Nat :=
  let v : Option Nat :=
    if 'a' ≤ c ∧ c ≤ 'z' then some (c.toNat - 87)
    else if 'A' ≤ c ∧ c ≤ 'Z' then some (c.toNat - 55)
    else decimalValue? c
  v.filter (· < base)

/-- The blanks that may surround a number: ASCII white space, and every blank beyond ASCII. -/
def isNumberBlank (c : Char) : Bool :=
  if c.toNat < 128 then (9 ≤ c.toNat && c.toNat ≤ 13) || c == ' ' else isBlank c

/-- The text without the blanks that may surround a number. -/
def trimNumber (s : List Char) : List Char :=
  ((s.dropWhile isNumberBlank).reverse.dropWhile isNumberBlank).reverse

/-- The value and the count of a run of digits that continues `value`, with single underscores
between digits: `afterDigit` says that an underscore may come next. -/
def readDigits? (base : Nat) (afterDigit : Bool) (value count : Nat) :
    List Char → Option (Nat × Nat)
  | [] => if afterDigit then some (value, count) else none
  | c :: rest =>
    if c = '_' then
      if afterDigit then readDigits? base false value count rest else none
    else match digitValue? base c with
      | some d => readDigits? base true (base * value + d) (count + 1) rest
      | none => none

/-- The most decimal digits that an integer text may have. -/
def maxIntDigits : Nat := 4300

/-- The text after the base's marker and one underscore behind it, when it has the marker. -/
def dropBaseMarker (base : Nat) : List Char → List Char
  | '0' :: m :: rest =>
    if (base = 16 ∧ (m = 'x' ∨ m = 'X')) ∨ (base = 8 ∧ (m = 'o' ∨ m = 'O')) ∨
        (base = 2 ∧ (m = 'b' ∨ m = 'B')) then
      match rest with
      | '_' :: rest => rest
      | rest => rest
    else '0' :: m :: rest
  | s => s

/-- The integer without sign that a text spells in a base. -/
def readNat? (base : Nat) (s : List Char) : Option Nat :=
  match readDigits? base false 0 0 (dropBaseMarker base s) with
  | some (value, count) => if base = 10 ∧ maxIntDigits < count then none else some value
  | none => none

/-- The integer that a text spells in a base, blanks around it and a sign in front allowed. -/
def readInt? (base : Nat) (s : List Char) : Option Int :=
  match trimNumber s with
  | '-' :: rest => (readNat? base rest).map fun n => -(n : Int)
  | '+' :: rest => (readNat? base rest).map fun n => (n : Int)
  | rest => (readNat? base rest).map fun n => (n : Int)

end RequestAuth.Text
