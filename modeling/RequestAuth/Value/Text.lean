import RequestAuth.Interpreter
import RequestAuth.Value
import RequestAuth.Text.Quoted

/-!
# The written form of a value

A value put into a text is written by `toText`: a text as it is, everything else as `shown`. Inside
a list or mapping texts are shown between quotes.

Doubles have the fewest digits that read back. They are written positionally from `10^-4` up to
below `10^16`, always with a decimal point, and with an exponent of at least two digits otherwise.

Not every value can be written: an integer in it may have too many digits, or too many values may
stand inside one another (`writeFault?`). Of several things in the way the first one counts, in the
order in which they would be written. Texts are texts of Unicode scalar values; what is *not*
formalized is the form of a text with half of a surrogate pair in it.
-/

namespace RequestAuth

/-- Why a value cannot be written. -/
inductive WriteFault where
  /-- An integer in it has too many digits. -/
  | overlong
  /-- Too many values in it stand inside one another. -/
  | tooDeep
  deriving DecidableEq

/-- The text of the digits of `m` with the decimal point `point` places behind the start. -/
def positional (m : String) (point : Int) : String :=
  if point ≤ 0 then
    "0." ++ String.ofList (List.replicate point.natAbs '0') ++ m
  else
    let n := point.toNat
    if m.length ≤ n then m ++ String.ofList (List.replicate (n - m.length) '0') ++ ".0"
    else String.ofList (m.toList.take n) ++ "." ++ String.ofList (m.toList.drop n)

/-- The text of the digits of `m` with one digit before the point, and an exponent. -/
def scientific (m : String) (exponent : Int) : String :=
  let mantissa := match m.toList with
    | [] => ""
    | [d] => String.ofList [d]
    | d :: rest => String.ofList (d :: '.' :: rest)
  let sign := if exponent < 0 then "-" else "+"
  s!"{mantissa}e{sign}{padded 2 exponent.natAbs}"

/-- The written form of a double. -/
def floatText (x : Float) : String :=
  if x.isNaN then "nan"
  else
    let sign := if Nat.pow 2 63 ≤ x.toBits.toNat then "-" else ""
    if x.isInf then sign ++ "inf"
    else if x == 0 then sign ++ "0.0"
    else
      let (m, e) := Decimal.shortest x.toBits
      let digits := toString m
      let exponent : Int := e + digits.length - 1
      sign ++ (if -4 ≤ exponent ∧ exponent < 16 then positional digits (exponent + 1)
        else scientific digits exponent)

/-- The shown form of a date. -/
def Date.shown (d : Date) : String := s!"datetime.date({d.year}, {d.month}, {d.day})"

/-- The shown form of an offset from universal time in minutes. -/
def offsetShown (minutes : Int) : String :=
  if minutes = 0 then "datetime.timezone.utc"
  else
    let days := minutes.fdiv 1440
    let seconds := minutes.fmod 1440 * 60
    let parts := (if days = 0 then [] else [s!"days={days}"]) ++
      (if seconds = 0 then [] else [s!"seconds={seconds}"])
    "datetime.timezone(datetime.timedelta(" ++ String.intercalate ", " parts ++ "))"

/-- The shown form of a moment: seconds and millionths are left out when they and all that follows
are zero. -/
def Moment.shown (t : Moment) : String :=
  let tail := if t.micro ≠ 0 then [t.second, t.micro] else if t.second ≠ 0 then [t.second] else []
  let fields := [t.date.year, t.date.month, t.date.day, t.hour, t.minute] ++ tail
  let zone := match t.offset with
    | none => []
    | some o => ["tzinfo=" ++ offsetShown o]
  "datetime.datetime(" ++ String.intercalate ", " (fields.map toString ++ zone) ++ ")"

namespace Value

mutual

/-- The form of a value inside a list or mapping, texts between quotes, with given forms for
unknowns and for values that contain themselves. -/
def shownWith (unknown : Nat → String) (cyclic : List (Nat × Value) → Nat → String) :
    Value → String
  | .null => "None"
  | .bool b => if b then "True" else "False"
  | .int n => toString n
  | .float x => floatText x
  | .nan _ => "nan"
  | .text s => quotedText s
  | .list items => "[" ++ String.intercalate ", " (shownItems unknown cyclic items) ++ "]"
  | .pair a b =>
    "(" ++ shownWith unknown cyclic a ++ ", " ++ shownWith unknown cyclic b ++ ")"
  | .map entries =>
    "\x7b" ++ String.intercalate ", " (shownEntries unknown cyclic entries) ++ "\x7d"
  | .set [] => "set()"
  | .set (a :: rest) =>
    let first := shownWith unknown cyclic a
    "\x7b" ++ String.intercalate ", " (first :: shownItems unknown cyclic rest) ++ "\x7d"
  | .bytes content => String.ofList (Text.quotedBytes content)
  | .date d => d.shown
  | .moment t => t.shown
  | .unknown n => unknown n
  | .cyclic equations n => cyclic equations n

/-- The shown forms of the items of a list. -/
def shownItems (unknown : Nat → String) (cyclic : List (Nat × Value) → Nat → String) :
    List Value → List String
  | [] => []
  | a :: rest => shownWith unknown cyclic a :: shownItems unknown cyclic rest

/-- The shown forms of the entries of a mapping, key and value with a colon between them. -/
def shownEntries (unknown : Nat → String) (cyclic : List (Nat × Value) → Nat → String) :
    List (Value × Value) → List String
  | [] => []
  | (k, v) :: rest =>
    (shownWith unknown cyclic k ++ ": " ++ shownWith unknown cyclic v) ::
      shownEntries unknown cyclic rest

end

/-- What is shown in the place of a collection inside itself. -/
def ellipsis : Option Value → String
  | some (.map _) => "\x7b...\x7d"
  | _ => "[...]"

/-- The shown form of an unknown, inside the collections of some others. -/
def shownUnknown (equations : List (Nat × Value)) :
    (fuel : Nat) → (around : List Nat) → Nat → String
  | 0, _, n => ellipsis (equations.lookup n)
  | fuel + 1, around, n =>
    match equations.lookup n with
    | some content =>
      if around.contains n then ellipsis content
      else
        shownWith (shownUnknown equations fuel (n :: around))
          (fun equations n => ellipsis (equations.lookup n)) content
    | none => ellipsis none

/-- The form of a value inside a list or mapping, texts between quotes. A collection inside itself
is shown as dots between brackets. -/
def shown (v : Value) : String :=
  shownWith (fun _ => ellipsis none)
    (fun equations n => shownUnknown equations (equations.length + 1) [] n) v

/-- The form of a value that is put into a text. -/
def toText : Value → String
  | .text s => s
  | .date d => d.toText
  | .moment t => t.toText " "
  | v => v.shown

/-! ### Values that cannot be written -/

/-- The most decimal digits that are written. -/
def maxWrittenDigits : Nat := 4300

/-- The most values inside one another that are written, with a call for each. -/
def maxWrittenDepth : Nat := Interpreter.maxCalls - 10

mutual

/-- What is first in the way of writing a value where `room` values may stand inside one another,
given what is in the way of unknowns and of values that contain themselves. -/
def writeFaultWith? (unknown : (room : Nat) → Nat → Option WriteFault)
    (cyclic : (room : Nat) → List (Nat × Value) → Nat → Option WriteFault) :
    (room : Nat) → Value → Option WriteFault
  | 0, _ => some .tooDeep
  | _ + 1, .int n =>
    if n.natAbs < Nat.pow 10 maxWrittenDigits then none else some .overlong
  | room + 1, .list items | room + 1, .set items => itemsFault? unknown cyclic room items
  | room + 1, .pair a b =>
    writeFaultWith? unknown cyclic room a <|> writeFaultWith? unknown cyclic room b
  | room + 1, .map entries => entriesFault? unknown cyclic room entries
  | room + 1, .unknown n => unknown (room + 1) n
  | room + 1, .cyclic equations n => cyclic (room + 1) equations n
  | _ + 1, _ => none

/-- What is first in the way of writing the items of a list. -/
def itemsFault? (unknown : (room : Nat) → Nat → Option WriteFault)
    (cyclic : (room : Nat) → List (Nat × Value) → Nat → Option WriteFault) (room : Nat) :
    List Value → Option WriteFault
  | [] => none
  | a :: rest => writeFaultWith? unknown cyclic room a <|> itemsFault? unknown cyclic room rest

/-- What is first in the way of writing the entries of a mapping, each key before its value. -/
def entriesFault? (unknown : (room : Nat) → Nat → Option WriteFault)
    (cyclic : (room : Nat) → List (Nat × Value) → Nat → Option WriteFault) (room : Nat) :
    List (Value × Value) → Option WriteFault
  | [] => none
  | (k, v) :: rest =>
    writeFaultWith? unknown cyclic room k <|> writeFaultWith? unknown cyclic room v <|>
      entriesFault? unknown cyclic room rest

end

/-- What is first in the way of writing an unknown, inside the collections of some others. -/
def unknownFault? (equations : List (Nat × Value)) :
    (fuel : Nat) → (around : List Nat) → (room : Nat) → Nat → Option WriteFault
  | 0, _, _, _ => none
  | fuel + 1, around, room, n =>
    if around.contains n then none
    else (equations.lookup n).bind
      (writeFaultWith? (unknownFault? equations fuel (n :: around)) (fun _ _ _ => none) room)

/-- What is first in the way of writing a value, if anything is. -/
def writeFault? (v : Value) : Option WriteFault :=
  writeFaultWith? (fun _ _ => none)
    (fun room equations n => unknownFault? equations (equations.length + 1) [] room n)
    maxWrittenDepth v

/-- Whether a value can be written. -/
def isWritable (v : Value) : Bool := v.writeFault?.isNone

end Value

end RequestAuth
