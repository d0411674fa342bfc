/-!
# Calendar

Dates and times of day of the Gregorian calendar in the years 1 to 9999: validity, the count of
days, instants in seconds, and their written forms. A time of day may carry an offset from universal
time in minutes. Time zones with names, leap seconds and offsets in seconds are not modelled.
-/

namespace RequestAuth

/-- A day of the calendar. -/
structure Date where
  /-- The year. -/
  year : Nat
  /-- The month, from 1. -/
  month : Nat
  /-- The day of the month, from 1. -/
  day : Nat
  deriving DecidableEq

/-- A date with a time of day. -/
structure Moment where
  /-- The day. -/
  date : Date
  /-- The hour, from 0 to 23. -/
  hour : Nat
  /-- The minute, from 0 to 59. -/
  minute : Nat
  /-- The second, from 0 to 59. -/
  second : Nat
  /-- The millionths of a second. -/
  micro : Nat
  /-- The minutes ahead of universal time, if the moment says so. -/
  offset : Option Int
  deriving DecidableEq

/-- Whether a year has a leap day. -/
def isLeapYear (y : Nat) : Bool := y % 4 == 0 && (y % 100 != 0 || y % 400 == 0)

/-- The number of days of a month. -/
def daysInMonth (y m : Nat) : Nat :=
  if m = 2 then (if isLeapYear y then 29 else 28)
  else if m = 4 ∨ m = 6 ∨ m = 9 ∨ m = 11 then 30 else 31

/-- The days of a year before a month. -/
def daysBeforeMonth (y m : Nat) : Nat :=
  (List.range (m - 1)).foldl (fun days k => days + daysInMonth y (k + 1)) 0

/-- The days before a year, counted from the year 1. -/
def daysBeforeYear (y : Nat) : Nat :=
  let k := y - 1
  k * 365 + k / 4 - k / 100 + k / 400

namespace Date

/-- Whether the calendar has the date, in the years 1 to 9999. -/
def isValid (d : Date) : Bool :=
  1 ≤ d.year && d.year ≤ 9999 && 1 ≤ d.month && d.month ≤ 12 && 1 ≤ d.day &&
    d.day ≤ daysInMonth d.year d.month

/-- The days from the first of January of the year 1 to the date. -/
def dayNumber (d : Date) : Nat :=
  daysBeforeYear d.year + daysBeforeMonth d.year d.month + (d.day - 1)

/-- The month and day that lie `days` days into a year, looked for from a month on. -/
def ofYearDay (y : Nat) : (fuel month days : Nat) → Date
  | 0, m, days => ⟨y, m, days + 1⟩
  | fuel + 1, m, days =>
    if days < daysInMonth y m then ⟨y, m, days + 1⟩
    else ofYearDay y fuel (m + 1) (days - daysInMonth y m)

/-- The date that lies `n` days after the first of January of the year 1. -/
def ofDayNumber (n : Nat) : Date :=
  let guess := n / 366 + 1
  let later := (List.range 32).filter fun k => daysBeforeYear (guess + k + 1) ≤ n
  let y := guess + later.length
  ofYearDay y 11 1 (n - daysBeforeYear y)

end Date

/-- A number with at least `width` decimal digits, zeros in front. -/
def padded (width n : Nat) : String :=
  let digits := toString n
  String.ofList (List.replicate (width - digits.length) '0') ++ digits

/-- The date as year, month and day between hyphens. -/
def Date.toText (d : Date) : String := s!"{padded 4 d.year}-{padded 2 d.month}-{padded 2 d.day}"

/-- An offset as sign, hours and minutes. -/
def offsetText (minutes : Int) : String :=
  let sign := if minutes < 0 then "-" else "+"
  let n := minutes.natAbs
  s!"{sign}{padded 2 (n / 60)}:{padded 2 (n % 60)}"

namespace Moment

/-- Whether the calendar and the clock have the moment and its offset is below a day. -/
def isValid (t : Moment) : Bool :=
  t.date.isValid && t.hour ≤ 23 && t.minute ≤ 59 && t.second ≤ 59 &&
    (match t.offset with
      | none => true
      | some o => o.natAbs < 1440)

/-- The millionths of a second from the start of the year 1, offset taken off. -/
def universal (t : Moment) : Int :=
  let day : Int := t.date.dayNumber
  let seconds : Int := day * 86400 + t.hour * 3600 + t.minute * 60 + t.second
  (seconds - t.offset.getD 0 * 60) * 1000000 + t.micro

/-- The date, the time of day behind `separator`, millionths when there are any, and the offset. -/
def toText (separator : String) (t : Moment) : String :=
  let clock := s!"{padded 2 t.hour}:{padded 2 t.minute}:{padded 2 t.second}"
  let fraction := if t.micro = 0 then "" else s!".{padded 6 t.micro}"
  let zone := match t.offset with
    | none => ""
    | some o => offsetText o
  s!"{t.date.toText}{separator}{clock}{fraction}{zone}"

end Moment

/-- A reading of the clock, in seconds from the start of the year 1.

The clock of the program counts millionths of a second. Whole seconds lose nothing of it: an instant
is only ever moved by a lifetime and compared with another one, and both are linear. So a run of the
program is one of the model with the millionth for the unit, lifetimes and the end of time in it. -/
structure Instant where
  /-- Seconds from the start of the year 1. -/
  seconds : Int
  deriving DecidableEq

namespace Instant

/-- The first second after the year 9999. -/
def endOfTime : Int := 3652059 * 86400

/-- Whether the instant lies in the years 1 to 9999. -/
def isRepresentable (t : Instant) : Bool := 0 ≤ t.seconds && t.seconds < endOfTime

/-- The instant of a date and time of day. -/
def of (d : Date) (hour minute second : Nat) : Instant :=
  ⟨(d.dayNumber * 86400 + hour * 3600 + minute * 60 + second : Nat)⟩

/-- The instant `n` seconds later. -/
def plus (t : Instant) (n : Int) : Instant := ⟨t.seconds + n⟩

/-- The date and time of day of the instant. -/
def toMoment (t : Instant) : Moment :=
  let n := t.seconds.toNat
  ⟨Date.ofDayNumber (n / 86400), n % 86400 / 3600, n % 3600 / 60, n % 60, 0, none⟩

/-- The date and the time of day with a `T` between them. -/
def toText (t : Instant) : String := t.toMoment.toText "T"

end Instant

end RequestAuth
