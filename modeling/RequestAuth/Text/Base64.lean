/-!
# Base64

Three bytes are written as four symbols of six bits each; one or two bytes at the end are filled up
with zero bits and padded with `=`. Credentials are written in the alphabet that is safe in
addresses, with `-` and `_` for the last two symbols (`encode`), and read back by `decode?`.

`readLoosely?` reads the ordinary alphabet, with `+` and `/`, and skips whatever lies between the
symbols.
-/

namespace RequestAuth.Base64

/-- The symbol of a number below 64. -/
def symbol (n : Nat) : Char :=
  if n < 26 then Char.ofNat (65 + n)
  else if n < 52 then Char.ofNat (71 + n)
  else if n < 62 then Char.ofNat (n - 4)
  else if n = 62 then '-'
  else '_'

/-- The number that a letter or digit stands for. -/
def letterValue? (c : Char) : Option Nat :=
  if 'A' ≤ c ∧ c ≤ 'Z' then some (c.toNat - 65)
  else if 'a' ≤ c ∧ c ≤ 'z' then some (c.toNat - 71)
  else if '0' ≤ c ∧ c ≤ '9' then some (c.toNat + 4)
  else none

/-- The number that a symbol stands for. -/
def value? (c : Char) : Option Nat :=
  if c = '-' then some 62 else if c = '_' then some 63 else letterValue? c

/-- The bytes as symbols. -/
def encode : List UInt8 → List Char
  | [] => []
  | [a] => [symbol (a.toNat / 4), symbol (a.toNat % 4 * 16), '=', '=']
  | [a, b] =>
    [symbol (a.toNat / 4), symbol (a.toNat % 4 * 16 + b.toNat / 16), symbol (b.toNat % 16 * 4), '=']
  | a :: b :: c :: rest =>
    symbol (a.toNat / 4) :: symbol (a.toNat % 4 * 16 + b.toNat / 16) ::
      symbol (b.toNat % 16 * 4 + c.toNat / 64) :: symbol (c.toNat % 64) :: encode rest

/-- The bytes that symbols stand for: groups of four, the last of them padded. -/
def decode? : List Char → Option (List UInt8)
  | [] => some []
  | p :: q :: '=' :: '=' :: [] => do
    return [((← value? p) * 4 + (← value? q) / 16).toUInt8]
  | p :: q :: r :: '=' :: [] => do
    let v ← value? q
    let w ← value? r
    return [((← value? p) * 4 + v / 16).toUInt8, (v % 16 * 16 + w / 4).toUInt8]
  | p :: q :: r :: s :: rest => do
    let v ← value? q
    let w ← value? r
    let tail ← decode? rest
    return ((← value? p) * 4 + v / 16).toUInt8 :: (v % 16 * 16 + w / 4).toUInt8 ::
      (w % 4 * 64 + (← value? s)).toUInt8 :: tail
  | _ => none

/-! ### Reading the ordinary alphabet loosely -/

/-- The number that a symbol of the ordinary alphabet stands for. -/
def ordinaryValue? (c : Char) : Option Nat :=
  if c = '+' then some 62 else if c = '/' then some 63 else letterValue? c

/-- The bytes that the symbols of a text stand for, `count` symbols of a group with the bits `left`
over and `pads` pads behind them being read already. The group has to be complete at the end; a pad
that completes it ends the text. -/
def readGroup? (count left pads : Nat) : List Char → Option (List UInt8)
  | [] => if count = 0 then some [] else none
  | c :: rest =>
    if c = '=' then
      if count < 2 then readGroup? count left pads rest
      else if 4 ≤ count + pads + 1 then some []
      else readGroup? count left (pads + 1) rest
    else match ordinaryValue? c with
      | none => readGroup? count left pads rest
      | some v =>
        if count = 0 then readGroup? 1 v 0 rest
        else if count = 1 then (readGroup? 2 (v % 16) 0 rest).map ((left * 4 + v / 16).toUInt8 :: ·)
        else if count = 2 then (readGroup? 3 (v % 4) 0 rest).map ((left * 16 + v / 4).toUInt8 :: ·)
        else (readGroup? 0 0 0 rest).map ((left * 64 + v).toUInt8 :: ·)

/-- The bytes that the symbols of a text stand for, everything else in the text skipped. -/
def readLoosely? (s : List Char) : Option (List UInt8) := readGroup? 0 0 0 s

end RequestAuth.Base64
