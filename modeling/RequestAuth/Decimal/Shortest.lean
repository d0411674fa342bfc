import RequestAuth.Decimal.Nearest

/-!
# The shortest decimal that reads back

`digits` gives the decimal digits of a positive double: as few as suffice for the nearest double to
be the number itself, and of several such texts the one closest to it.
-/

namespace RequestAuth.Decimal

/-- The mantissa and exponent of a bit pattern's magnitude: its value is `m · 2^e`. -/
def decompose (bits : UInt64) : Nat × Int :=
  let n : Nat := bits.toNat % Nat.pow 2 63
  let biased : Nat := n / Nat.pow 2 52
  let fraction : Nat := n % Nat.pow 2 52
  if biased = 0 then (fraction, -1074) else (fraction + Nat.pow 2 52, (biased : Int) - 1075)

/-- The magnitude of a bit pattern as a ratio. -/
def ratioOf (bits : UInt64) : Nat × Nat :=
  let (m, e) := decompose bits
  if e < 0 then (m, Nat.pow 2 e.natAbs) else (m * Nat.pow 2 e.natAbs, 1)

/-- The least `k` with `p / q < 10^k`, found upwards from a lower bound in `fuel` steps. -/
def pointAbove (p q : Nat) : (fuel : Nat) → Int → Int
  | 0, k => k
  | fuel + 1, k =>
    let below := if k < 0 then p * Nat.pow 10 k.natAbs < q else p < q * Nat.pow 10 k.natAbs
    if below then k else pointAbove p q fuel (k + 1)

/-- The place of the decimal point of `p / q`: the least `k` with `p / q < 10^k`. -/
def pointOf (p q : Nat) : Int :=
  let bits : Int := (Nat.log2 p : Int) - (Nat.log2 q : Int)
  pointAbove p q 6 (bits * 30103 / 100000 - 1)

/-- The decimal of at most `count` digits that reads back as `p / q` and is closest to it, as an
integer and the power of ten it is counted in, if there is one. -/
def withDigits? (bits : UInt64) (p q : Nat) (point : Int) (count : Nat) : Option (Nat × Int) :=
  let unit : Int := point - count
  let (n, d) :=
    if unit < 0 then (p * Nat.pow 10 unit.natAbs, q) else (p, q * Nat.pow 10 unit.natAbs)
  let low := n / d
  let reads (m : Nat) : Bool := ofDecimal m unit == bits
  let lowFirst := 2 * (n % d) < d || (2 * (n % d) == d && low % 2 == 0)
  let (first, second) := if lowFirst then (low, low + 1) else (low + 1, low)
  if reads first then some (first, unit)
  else if reads second then some (second, unit)
  else none

/-- The first of the digit counts from `count` on at which a decimal reads back. -/
def search (bits : UInt64) (p q : Nat) (point : Int) : (fuel count : Nat) → Nat × Int
  | 0, count => (withDigits? bits p q point count).getD (0, 0)
  | fuel + 1, count =>
    match withDigits? bits p q point count with
    | some found => found
    | none => search bits p q point fuel (count + 1)

/-- The number without its trailing zeros, the power of ten raised to match. -/
def dropZeros : (fuel m : Nat) → Int → Nat × Int
  | 0, m, e => (m, e)
  | fuel + 1, m, e => if m % 10 = 0 ∧ m ≠ 0 then dropZeros fuel (m / 10) (e + 1) else (m, e)

/-- The shortest decimal `m · 10^e` that reads back as the magnitude of a finite bit pattern other
than zero. Seventeen digits always suffice. -/
def shortest (bits : UInt64) : Nat × Int :=
  let magnitude := (bits.toNat % Nat.pow 2 63).toUInt64
  let (p, q) := ratioOf magnitude
  let (m, e) := search magnitude p q (pointOf p q) 16 1
  dropZeros 20 m e

end RequestAuth.Decimal
