import RequestAuth.Fault
import RequestAuth.Text.Decimal

/-!
# Dates and times in YAML

A date is a year, a month and a day between hyphens. A time of day may follow, behind a `T` or
blanks: with a fraction of a second, and with an offset from universal time or a `Z`.
-/

namespace RequestAuth.Yaml

/-- A date and perhaps a time of day as they are written, whether or not the calendar has them. -/
structure Timestamp where
  /-- The date. -/
  date : Date
  /-- Whether month and day have two digits each. -/
  isFullDate : Bool
  /-- The hour, minute and second, the digits of the fraction and the offset in minutes. -/
  clock : Option (Nat × Nat × Nat × List Char × Option Int)

/-- The number in `least` to `most` digits at the start of a text, as many as there are. -/
def number? (least most : Nat) (s : List Char) : Option (Nat × List Char) :=
  let ds := (s.take most).takeWhile Char.isDigit
  if ds.length < least then none
  else some (Text.ofDigits (ds.map fun c => c.toNat - 48), s.drop ds.length)

/-- The text behind a character. -/
def behind? (c : Char) : List Char → Option (List Char)
  | d :: rest => if d = c then some rest else none
  | [] => none

/-- Whether a character is a blank or a tab. -/
def isGap (c : Char) : Bool := c == ' ' || c == '\t'

/-- The offset that a text consists of. -/
def offset? : List Char → Option (Option Int)
  | [] => some none
  | s =>
    match s.dropWhile isGap with
    | ['Z'] => some (some 0)
    | sign :: rest =>
      if sign = '+' ∨ sign = '-' then do
        let (hours, rest) ← number? 1 2 rest
        let minutes ← match rest with
          | [] => some 0
          | rest => do
            let (m, rest) ← number? 2 2 (← behind? ':' rest)
            if rest.isEmpty then some m else none
        let total : Int := hours * 60 + minutes
        return some (if sign = '-' then -total else total)
      else none
    | [] => none

/-- The time of day that a text consists of, behind what separates it from the date. -/
def clock? (s : List Char) : Option (Nat × Nat × Nat × List Char × Option Int) := do
  let rest ← match s with
    | 'T' :: rest => some rest
    | 't' :: rest => some rest
    | ' ' :: rest => some (rest.dropWhile isGap)
    | '\t' :: rest => some (rest.dropWhile isGap)
    | _ => none
  let (hour, rest) ← number? 1 2 rest
  let (minute, rest) ← number? 2 2 (← behind? ':' rest)
  let (second, rest) ← number? 2 2 (← behind? ':' rest)
  let (fraction, rest) := match rest with
    | '.' :: rest => (rest.takeWhile Char.isDigit, rest.dropWhile Char.isDigit)
    | rest => ([], rest)
  return (hour, minute, second, fraction, ← offset? rest)

/-- The timestamp that a text is. -/
def timestamp? (s : List Char) : Option Timestamp := do
  let (year, rest) ← number? 4 4 s
  let (month, rest) ← number? 1 2 (← behind? '-' rest)
  let (day, rest) ← number? 1 2 (← behind? '-' rest)
  let date : Date := ⟨year, month, day⟩
  if rest.isEmpty then return ⟨date, s.length == 10, none⟩
  else return ⟨date, s.length == 10 + rest.length, some (← clock? rest)⟩

/-- Whether a text has the form of a timestamp. A date alone needs two digits for month and day. -/
def isTimestamp (s : List Char) : Bool :=
  match timestamp? s with
  | some t => t.clock.isSome || t.isFullDate
  | none => false

/-- The millionths of a second that the digits of a fraction stand for; further digits count for
nothing. -/
def micros (fraction : List Char) : Nat :=
  Text.ofDigits (((fraction ++ List.replicate 6 '0').take 6).map fun c => c.toNat - 48)

/-- The date or moment of a timestamp. One that the calendar or the clock lacks is a fault. -/
def Timestamp.value (t : Timestamp) : Except Fault Value :=
  match t.clock with
  | none => if t.date.isValid then .ok (.date t.date) else .error (.valueInvalid "no such day")
  | some (hour, minute, second, fraction, offset) =>
    let moment : Moment := ⟨t.date, hour, minute, second, micros fraction, offset⟩
    if moment.isValid then .ok (.moment moment) else .error (.valueInvalid "no such time")

end RequestAuth.Yaml
