import RequestAuth.Text.Digit
import RequestAuth.Decimal.Nearest

/-!
# Doubles written in digits

Reading a double from a text of small letters: blanks around it are ignored, a sign may stand in
front, digits of every script count, and infinity and the absence of a number have names.
-/

namespace RequestAuth.Text

/-- The digits at the start of a text, and the rest. -/
def spanDigits : List Char → List Nat × List Char
  | [] => ([], [])
  | c :: rest =>
    match decimalValue? c with
    | some d => let (ds, rest) := spanDigits rest; (d :: ds, rest)
    | none => ([], c :: rest)

/-- The number that decimal digits spell. -/
def ofDigits (ds : List Nat) : Nat := ds.foldl (fun n d => 10 * n + d) 0

/-- The power of ten that a text adds to a number: none when it is empty, the number behind an `e`
otherwise. -/
def exponent? : List Char → Option Int
  | [] => some 0
  | 'e' :: rest =>
    let (negative, rest) := match rest with
      | '-' :: rest => (true, rest)
      | '+' :: rest => (false, rest)
      | rest => (false, rest)
    match spanDigits rest with
    | ([], _) => none
    | (ds, []) => some (if negative then -(ofDigits ds : Int) else ofDigits ds)
    | _ => none
  | _ => none

/-- The double that a text without blanks and sign spells. -/
def unsignedDouble? (negative : Bool) (s : List Char) : Option Float :=
  if s == "inf".toList || s == "infinity".toList then
    some (if negative then Float.ofBits 0xFFF0000000000000 else Float.ofBits 0x7FF0000000000000)
  else if s == "nan".toList then some (Float.ofBits 0x7FF8000000000000)
  else
    let (whole, rest) := spanDigits s
    let (fraction, rest) := match rest with
      | '.' :: rest => spanDigits rest
      | rest => ([], rest)
    if whole.isEmpty && fraction.isEmpty then none
    else (exponent? rest).map fun e =>
      Decimal.toFloat negative (ofDigits (whole ++ fraction)) (e - fraction.length)

/-- The double that a text spells. -/
def readDouble? (s : List Char) : Option Float :=
  match trimNumber s with
  | '-' :: rest => unsignedDouble? true rest
  | '+' :: rest => unsignedDouble? false rest
  | rest => unsignedDouble? false rest

end RequestAuth.Text
