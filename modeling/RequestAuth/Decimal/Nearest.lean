/-!
# The binary number nearest to a decimal one

A double-precision number is `m · 2^e` with `m` below `2^53`. `ofRatio` finds the one nearest to a
positive ratio `p / q` in exact arithmetic, a tie going to the even `m`, and gives its bit pattern;
`ofDecimal` does so for `m · 10^e`.
-/

namespace RequestAuth.Decimal

/-- `p / q` divided by `2^e`, as a ratio. -/
def scale (p q : Nat) (e : Int) : Nat × Nat :=
  if e < 0 then (p * Nat.pow 2 e.natAbs, q) else (p, q * Nat.pow 2 e.natAbs)

/-- The exponent `e` at which `p / q / 2^e` lies from `2^52` to below `2^53`, but never below the
least exponent of a double. -/
def exponentFor (p q : Nat) : Int :=
  let guess : Int := (Nat.log2 p : Int) - (Nat.log2 q : Int) - 52
  let (n, d) := scale p q guess
  let e : Int := if n < d * Nat.pow 2 52 then guess - 1 else guess
  max e (-1074)

/-- The integer nearest to `n / d`, a tie going to the even neighbour. -/
def roundEven (n d : Nat) : Nat :=
  let floor := n / d
  let twice := 2 * (n % d)
  if twice < d then floor
  else if d < twice then floor + 1
  else if floor % 2 = 0 then floor else floor + 1

/-- The bit pattern of `m · 2^e` for `m ≤ 2^53`, that of infinity when it is too large. -/
def assemble (m : Nat) (e : Int) : UInt64 :=
  if m < Nat.pow 2 52 then m.toUInt64
  else
    let (m, e) := if m = Nat.pow 2 53 then (Nat.pow 2 52, e + 1) else (m, e)
    let biased := (e + 1075).toNat
    if 2047 ≤ biased then 0x7FF0000000000000
    else (biased * Nat.pow 2 52 + (m - Nat.pow 2 52)).toUInt64

/-- The bit pattern of the double nearest to `p / q`. -/
def ofRatio (p q : Nat) : UInt64 :=
  if p = 0 then 0
  else
    let e := exponentFor p q
    let (n, d) := scale p q e
    assemble (roundEven n d) e

/-- The bit pattern of the double nearest to `m · 10^e`. Beyond four hundred places the result is
infinity or zero whatever the digits are. -/
def ofDecimal (m : Nat) (e : Int) : UInt64 :=
  let places : Int := (Nat.log2 m : Int) / 4 + e
  if m = 0 then 0
  else if 400 < places then 0x7FF0000000000000
  else if e < 0 then
    if (Nat.log2 m : Int) + e < -400 then 0 else ofRatio m (Nat.pow 10 e.natAbs)
  else ofRatio (m * Nat.pow 10 e.natAbs) 1

/-- The double nearest to `m · 10^e`, negative if so asked. -/
def toFloat (negative : Bool) (m : Nat) (e : Int) : Float :=
  let x := Float.ofBits (ofDecimal m e)
  if negative then -x else x

end RequestAuth.Decimal
