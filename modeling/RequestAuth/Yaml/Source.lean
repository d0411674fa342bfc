import RequestAuth.Fault
import RequestAuth.Text.Utf8

/-!
# The text of a YAML file

A file is read in portions of characters, and each only when it is needed: a byte that is no UTF-8
and a character that YAML does not allow are faults of their portion, and a fault of the text before
it comes first. A `Source` is what can be read and the fault behind it, if there is one.

A carriage return, alone or before a line feed, counts as a line feed.
-/

namespace RequestAuth.Yaml

/-- A text as far as it can be read. -/
structure Source where
  /-- The characters that can be read. -/
  chars : List Char
  /-- What prevents reading on behind them; none when the text ends there. -/
  fault? : Option Fault

/-- Whether a YAML text may contain the character. -/
def isAllowed (c : Char) : Bool :=
  let n := c.toNat
  n == 9 || n == 10 || n == 13 || (0x20 ≤ n && n ≤ 0x7E) || n == 0x85 ||
    (0xA0 ≤ n && n ≤ 0xFFFD) || 0x10000 ≤ n

/-- A text with its carriage returns replaced, behind the characters `read`, last first. -/
def normalizeFrom (read : List Char) : List Char → List Char
  | '\r' :: '\n' :: rest => normalizeFrom ('\n' :: read) rest
  | '\r' :: rest => normalizeFrom ('\n' :: read) rest
  | c :: rest => normalizeFrom (c :: read) rest
  | [] => read.reverse

/-- The text with every carriage return, alone or before a line feed, made a line feed. -/
def normalize (s : List Char) : List Char := normalizeFrom [] s

namespace Source

/-- The count of characters in a portion. The first two are read together. -/
def portion : Nat := 4096

/-- The place where the portion of a character begins. -/
def portionStart (n : Nat) : Nat := if n < 2 * portion then 0 else n / portion * portion

/-- The least count of bytes that are decoded at once. -/
def block : Nat := 8192

/-- The state of decoding a file block by block. -/
structure Decoding where
  /-- The bytes still to be decoded. -/
  bytes : List UInt8
  /-- The character that is begun. -/
  begun : Text.Utf8.Begun
  /-- Whether the last character was a carriage return, which is held back. -/
  heldReturn : Bool
  /-- The count of characters so far. -/
  count : Nat
  /-- The count of bytes in the last block. -/
  lastBytes : Nat
  /-- The count of characters in the last block. -/
  lastChars : Nat

namespace Decoding

/-- The count of bytes in the next block: as many as the portion needs if they are like those of the
last block. -/
def blockSize (d : Decoding) : Nat :=
  let needed := portion - d.count % portion
  max block
    (if 0 < d.lastChars ∧ d.lastChars < d.lastBytes then d.lastBytes * needed / d.lastChars
      else needed)

/-- The count of characters before the block in which the bytes turn out to be no UTF-8, none if
they are. -/
def countBeforeFault : (fuel : Nat) → Decoding → Option Nat
  | 0, _ => none
  | fuel + 1, d =>
    if d.bytes.isEmpty then (if d.begun.isNothing then none else some d.count)
    else
      let taken := d.bytes.take d.blockSize
      match Text.Utf8.decode d.begun taken with
      | (_, none) => some d.count
      | (chars, some begun) =>
        let held := if d.heldReturn && !chars.isEmpty then '\r' :: chars else chars
        let endsHeld := held.getLast? == some '\r'
        let shown := (normalize (if endsHeld then held.dropLast else held)).length
        countBeforeFault fuel {
          bytes := d.bytes.drop taken.length, begun,
          heldReturn := endsHeld || (d.heldReturn && chars.isEmpty),
          count := d.count + shown, lastBytes := taken.length, lastChars := shown }

end Decoding

/-- The place behind which a file cannot be read because its bytes are no UTF-8. -/
def undecodable? (bytes : List UInt8) : Option Nat :=
  (Decoding.countBeforeFault (bytes.length + 1) ⟨bytes, .nothing, false, 0, 0, 0⟩).map portionStart

/-- The text of a file with some bytes. -/
def ofBytes (bytes : List UInt8) : Source :=
  let (decoded, ending) := Text.Utf8.decode .nothing bytes
  let chars := normalize decoded
  let refused? := (chars.findIdx? fun c => !isAllowed c).map portionStart
  let undecodable? := if ending.any (·.isNothing) then none else undecodable? bytes
  match undecodable?, refused? with
  | none, none => ⟨chars, none⟩
  | some d, none => ⟨chars.take d, some .undecodable⟩
  | none, some r => ⟨chars.take r, some .yamlMalformed⟩
  | some d, some r =>
    if d ≤ r then ⟨chars.take d, some .undecodable⟩ else ⟨chars.take r, some .yamlMalformed⟩

end Source

end RequestAuth.Yaml
