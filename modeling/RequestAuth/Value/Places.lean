import RequestAuth.Value

/-!
# The order of a set of numbers

A set of numbers lists them by their places in a table, whose size is a power of two: eight for up
to four numbers, and otherwise the least one above twice their count. A number is put where its
residue says, or, when that place is taken, at the first free one of those that follow from it by a
fixed rule. Other items have no such place; a set that has some lists its items as they were given.
-/

namespace RequestAuth.Value

/-- The modulus of the residues. -/
def modulus : Nat := Nat.pow 2 61 - 1

/-- A residue with the sign of its number as a word of 64 bits. Minus one is taken for minus two. -/
def signedWord (negative : Bool) (residue : Nat) : Nat :=
  if !negative then residue
  else if residue = 1 then Nat.pow 2 64 - 2
  else (Nat.pow 2 64 - residue) % Nat.pow 2 64

/-- The residue of a double's magnitude. Powers of two repeat after 61, the infinite ones have a
residue of their own. -/
def floatResidue (x : Float) : Nat :=
  if x.isInf then 314159
  else
    let (m, e) := Decimal.decompose x.toBits
    m * Nat.pow 2 (e % 61).toNat % modulus

/-- The word that says where a number goes. -/
def word? : Value → Option Nat
  | .bool b => some (if b then 1 else 0)
  | .int n => some (signedWord (n < 0) (n.natAbs % modulus))
  | .float x => some (signedWord (x < 0) (floatResidue x))
  | _ => none

/-- The size of the table for a count of numbers. -/
def tableSize (count : Nat) : Nat := if count ≤ 4 then 8 else Nat.pow 2 (Nat.log2 (2 * count) + 1)

/-- The first free place for a number that asks for place `i`. The nine places behind it are tried
first if the table has as many; then `rest`, what is left of the word, leads to another place. -/
def freePlace (taken : List Nat) (size : Nat) : (fuel : Nat) → (rest i : Nat) → Nat
  | 0, _, i => i
  | fuel + 1, rest, i =>
    let near := List.range' i (if i + 9 < size then 10 else 1)
    match near.find? fun p => !taken.contains p with
    | some p => p
    | none => freePlace taken size fuel (rest / 32) ((5 * i + 1 + rest / 32) % size)

/-- Distinct values in the order in which a set lists them. -/
def inPlaces (items : List Value) : List Value :=
  match items.mapM word? with
  | none => items
  | some words =>
    let size := tableSize items.length
    let table := (words.zip items).foldl (fun (table : List (Nat × Value)) (w, v) =>
      (freePlace (table.map Prod.fst) size (size + 16) w (w % size), v) :: table) []
    (table.mergeSort fun a b => a.1 ≤ b.1).map Prod.snd

end RequestAuth.Value
