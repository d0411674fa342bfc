import RequestAuth.Fault

/-!
# The order of values

Values of one kind are ordered: numbers by value (what is no number comes neither before nor behind
one), texts by the code points of their characters, byte strings by their bytes, days and moments by
time. Values of different kinds have no order, and moments with and without an offset have none
among each other; sorting two such values is a fault.
-/

namespace RequestAuth.Value

/-- Whether a ratio with a sign is less than another one. -/
def ratioLess (a b : Int × Nat) : Bool := a.1 * b.2 < b.1 * a.2

/-- The ratio that a finite double is. -/
def ratio (x : Float) : Int × Nat :=
  let (p, q) := Decimal.ratioOf x.toBits
  (if Nat.pow 2 63 ≤ x.toBits.toNat then -(p : Int) else p, q)

/-- Whether an integer is less than a double. -/
def intLess (n : Int) (x : Float) : Bool :=
  if x.isInf then 0 < x
  else ratioLess (n, 1) (ratio x)

/-- Whether a double is less than an integer. -/
def lessInt (x : Float) (n : Int) : Bool :=
  if x.isInf then x < 0
  else ratioLess (ratio x) (n, 1)

/-- Whether a byte string comes before another one. -/
def bytesLess : List UInt8 → List UInt8 → Bool
  | [], b => !b.isEmpty
  | _ :: _, [] => false
  | x :: a, y :: b => x < y || (x == y && bytesLess a b)

/-- The integer that a truth value counts as. -/
def ofTruth (b : Bool) : Int := if b then 1 else 0

/-- Whether a value counts as a number. -/
def isNumber : Value → Bool
  | .bool _ | .int _ | .float _ | .nan _ => true
  | _ => false

/-- Whether a value comes before another one, unless the two have no order. -/
def less? : Value → Value → Option Bool
  | .bool a, b => less? (.int (ofTruth a)) b
  | .int a, .bool b => some (a < ofTruth b)
  | .float a, .bool b => some (lessInt a (ofTruth b))
  | .int a, .int b => some (a < b)
  | .int a, .float b => some (intLess a b)
  | .float a, .int b => some (lessInt a b)
  | .float a, .float b => some (a < b)
  | .nan _, b => if b.isNumber then some false else none
  | a, .nan _ => if a.isNumber then some false else none
  | .text a, .text b => some (a < b)
  | .bytes a, .bytes b => some (bytesLess a b)
  | .date a, .date b => some (a.dayNumber < b.dayNumber)
  | .moment a, .moment b =>
    if a.offset.isSome == b.offset.isSome then some (a.universal < b.universal) else none
  | _, _ => none
termination_by a => match a with
  | .bool _ => 1
  | _ => 0

/-- Whether a value is greater than zero. -/
def isPositive (v : Value) : Except Fault Bool :=
  match less? (.int 0) v with
  | some b => .ok b
  | none => .error .typeMismatch

/-- The values in ascending order. -/
def sorted (vs : List Value) : Except Fault (List Value) :=
  if vs.length < 2 then .ok vs
  else
    let first := vs.headD .null
    if vs.all fun v => (less? first v).isSome then
      .ok (vs.mergeSort fun a b => less? b a != some true)
    else .error .typeMismatch

end RequestAuth.Value
