import RequestAuth.Text.Base64
import RequestAuth.Text.Hex

/-!
# Form encoding

Values are sent in bodies, queries and cookies as pairs `name=value`. Of the UTF-8 bytes of a value
only letters, digits and `_.-~` are kept, a blank becomes `+`, and every other byte becomes `%` and
two hexadecimal digits; the name stands as it is. `decode?` reads an encoded value back.

A user and a secret are sent as base64 of the two with a colon between them.

What is *not* formalized: half of a surrogate pair in a value, a user or a secret. It has no UTF-8,
so that the program fails there; every text of this module has its UTF-8 bytes.
-/

namespace RequestAuth.Form

/-- Whether a byte is kept. -/
def isKept (b : UInt8) : Bool :=
  let n := b.toNat
  (48 ≤ n && n ≤ 57) || (65 ≤ n && n ≤ 90) || (97 ≤ n && n ≤ 122) ||
    n == 95 || n == 46 || n == 45 || n == 126

/-- The encoded form of a byte. -/
def encodeByte (b : UInt8) : List Char :=
  if isKept b then [Char.ofNat b.toNat]
  else if b = 32 then ['+']
  else ['%', Text.hexCapital (b.toNat / 16), Text.hexCapital (b.toNat % 16)]

/-- The encoded form of some bytes. -/
def encodeBytes (bytes : List UInt8) : List Char := bytes.flatMap encodeByte

/-- The bytes that an encoded form stands for. -/
def decodeBytes? : List Char → Option (List UInt8)
  | [] => some []
  | '+' :: rest => (decodeBytes? rest).map (32 :: ·)
  | '%' :: a :: b :: rest => do
    let n := (← Text.hexValue? a) * 16 + (← Text.hexValue? b)
    return n.toUInt8 :: (← decodeBytes? rest)
  | c :: rest =>
    if c.toNat < 128 ∧ c ≠ '%' then (decodeBytes? rest).map (c.toNat.toUInt8 :: ·) else none

/-- The encoded form of a text. -/
def encode (s : String) : String := String.ofList (encodeBytes s.toUTF8.data.toList)

/-- The text of an encoded form. -/
def decode? (s : String) : Option String := do
  String.fromUTF8? ⟨(← decodeBytes? s.toList).toArray⟩

/-- A name and an encoded value. -/
def pair (name value : String) : String := name ++ "=" ++ encode value

end RequestAuth.Form

namespace RequestAuth

/-- A user and a secret in base64, as they follow the word for the authentication scheme. -/
def basicCredentials (user secret : String) : String :=
  String.ofList (Base64.encode (user ++ ":" ++ secret).toUTF8.data.toList)

end RequestAuth
