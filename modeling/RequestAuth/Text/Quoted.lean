import RequestAuth.Text.Case
import RequestAuth.Text.Hex
import RequestAuth.Text.PrintableTable

/-!
# Quoted texts

How a text is shown inside a longer one: between single quotes, or between double quotes when it
holds a single quote and no double quote. A backslash and the quote in use are escaped, line feeds,
carriage returns and tabs have short escapes, and every other character that is not printable is
written by its code in two, four or eight hexadecimal digits.
-/

namespace RequestAuth.Text

/-- Whether a character shows as itself inside quotes. -/
def isPrintable (c : Char) : Bool :=
  if c.toNat < 128 then 32 ≤ c.toNat && c.toNat ≤ 126 else inRanges printableRanges c.toNat

/-- A character inside quotes. -/
def quoteChar (quote c : Char) : List Char :=
  if c = quote ∨ c = '\\' then ['\\', c]
  else if c = '\n' then ['\\', 'n']
  else if c = '\r' then ['\\', 'r']
  else if c = '\t' then ['\\', 't']
  else if isPrintable c then [c]
  else if c.toNat < 0x100 then '\\' :: 'x' :: hexDigits 2 c.toNat
  else if c.toNat < 0x10000 then '\\' :: 'u' :: hexDigits 4 c.toNat
  else '\\' :: 'U' :: hexDigits 8 c.toNat

/-- The quote around a text: single, unless the text holds a single quote and no double one. -/
def quoteFor (s : List Char) : Char := if '\'' ∈ s ∧ '\"' ∉ s then '\"' else '\''

/-- The text between quotes. -/
def quoted (s : List Char) : List Char :=
  let quote := quoteFor s
  quote :: s.flatMap (quoteChar quote) ++ [quote]

/-- Bytes between quotes after a `b`, each byte that is no printable ASCII character escaped. -/
def quotedBytes (bs : List UInt8) : List Char :=
  let s := bs.map fun b => Char.ofNat b.toNat
  let quote := quoteFor s
  let byte (c : Char) : List Char :=
    if c.toNat < 128 then quoteChar quote c else '\\' :: 'x' :: hexDigits 2 c.toNat
  'b' :: quote :: s.flatMap byte ++ [quote]

end RequestAuth.Text

namespace RequestAuth

/-- The text between quotes. -/
def quotedText (s : String) : String := String.ofList (Text.quoted s.toList)

end RequestAuth
