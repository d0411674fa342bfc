/-!
# UTF-8

Decoding bytes one after the other. What is begun but not complete is kept (`Begun`), so bytes can
be decoded piece by piece, and a byte that no text can hold there is refused at once. Half of a
surrogate pair is refused with its last byte.
-/

namespace RequestAuth.Text.Utf8

/-- A character of which some bytes are known. -/
structure Begun where
  /-- The bytes that it lacks, none between two characters. -/
  owed : Nat
  /-- The least value that the next byte may have. -/
  least : Nat
  /-- The greatest value that the next byte may have. -/
  greatest : Nat
  /-- The bits known so far. -/
  bits : Nat

/-- No character is begun. -/
def Begun.nothing : Begun := ⟨0, 0x80, 0xBF, 0⟩

/-- Whether no character is begun. -/
def Begun.isNothing (p : Begun) : Bool := p.owed == 0

/-- What a first byte begins: a whole character, or one that lacks bytes. -/
def first (b : Nat) : Option (Char ⊕ Begun) :=
  if b ≤ 0x7F then some (.inl (Char.ofNat b))
  else if b < 0xC2 then none
  else if b ≤ 0xDF then some (.inr ⟨1, 0x80, 0xBF, b - 0xC0⟩)
  else if b ≤ 0xEF then
    some (.inr ⟨2, if b = 0xE0 then 0xA0 else 0x80, 0xBF, b - 0xE0⟩)
  else if b ≤ 0xF4 then
    some (.inr ⟨3, if b = 0xF0 then 0x90 else 0x80, if b = 0xF4 then 0x8F else 0xBF, b - 0xF0⟩)
  else none

/-- The character with some bits, if there is one. -/
def whole? (bits : Nat) : Option Char :=
  if h : bits.isValidChar then some (Char.ofNatAux bits h) else none

/-- What comes of one more byte, none where it cannot stand. -/
def step (p : Begun) (b : UInt8) : Option (Char ⊕ Begun) :=
  let b := b.toNat
  if p.owed = 0 then first b
  else if p.least ≤ b ∧ b ≤ p.greatest then
    let bits := 64 * p.bits + (b - 0x80)
    if p.owed = 1 then (whole? bits).map .inl else some (.inr ⟨p.owed - 1, 0x80, 0xBF, bits⟩)
  else none

/-- The characters of bytes behind those read before, and what is begun at their end; `read` holds
the characters before them, last first. When a byte is refused there is nothing at the end. -/
def decodeFrom (read : List Char) (p : Begun) : List UInt8 → List Char × Option Begun
  | [] => (read.reverse, some p)
  | b :: rest =>
    match step p b with
    | none => (read.reverse, none)
    | some (.inl c) => decodeFrom (c :: read) .nothing rest
    | some (.inr p) => decodeFrom read p rest

/-- The characters of bytes, and what is begun at their end unless a byte is refused. -/
def decode (p : Begun) (bytes : List UInt8) : List Char × Option Begun := decodeFrom [] p bytes

end RequestAuth.Text.Utf8
