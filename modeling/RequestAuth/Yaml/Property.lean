import RequestAuth.Yaml.Cursor
import RequestAuth.Yaml.Token
import RequestAuth.Text.Digit
import RequestAuth.Text.Hex

/-!
# Directives, anchors and tags

Reading the lexemes of YAML that are no scalar: the directives in front of a document, the names of
anchors and aliases, and tags with their handles and percent-escapes.
-/

namespace RequestAuth.Yaml

open Cursor

/-- A name of word characters, which may not be empty. -/
def word (c : Cursor) : Except Fault (String × Cursor) := do
  match ← c.span isWordChar with
  | ([], _) => throw .yamlMalformed
  | (name, c) => return (String.ofList name, c)

/-- A number in ASCII digits. One that is too long is a fault of its own. -/
def versionNumber (c : Cursor) : Except Fault (Nat × Cursor) := do
  match ← c.span fun ch => '0' ≤ ch && ch ≤ '9' with
  | ([], _) => throw .yamlMalformed
  | (digits, c) =>
    match Text.readNat? 10 digits with
    | some n => return (n, c)
    | none => throw (.valueInvalid "the number has too many digits")

/-- The character at a place, if it satisfies a condition; a fault otherwise. -/
def expect (c : Cursor) (p : Char → Bool) : Except Fault Unit := do
  if !(← c.at? p) then throw .yamlMalformed

/-- The bytes of the percent-escapes at a place, one behind the other. -/
def uriEscapes : (fuel : Nat) → Cursor → Except Fault (List UInt8 × Cursor)
  | 0, c => .ok ([], c)
  | fuel + 1, c => do
    if (← c.peek) == '%' then
      match Text.hexNumber? [← c.peekAt 1, ← c.peekAt 2] with
      | some n =>
        let (bytes, c) ← uriEscapes fuel (c.skip 3)
        return (n.toUInt8 :: bytes, c)
      | none => throw .yamlMalformed
    else return ([], c)

/-- Whether a character may stand in a tag. -/
def isUriChar (c : Char) : Bool :=
  isWordChar c || ";/?:@&=+$,.!~*'()[]%".toList.contains c

/-- The characters of a tag from a place on, escapes resolved. -/
def uriChars : (fuel : Nat) → Cursor → Except Fault (List Char × Cursor)
  | 0, c => .ok ([], c)
  | fuel + 1, c => do
    let (plain, c) ← c.span fun ch => isUriChar ch && ch != '%'
    if (← c.peek) == '%' then
      let (bytes, c) ← uriEscapes c.left c
      match String.fromUTF8? ⟨bytes.toArray⟩ with
      | none => throw .yamlMalformed
      | some s =>
        let (rest, c) ← uriChars fuel c
        return (plain ++ s.toList ++ rest, c)
    else return (plain, c)

/-- The text of a tag or of the beginning of a tag, which may not be empty. -/
def uri (c : Cursor) : Except Fault (String × Cursor) := do
  expect c isUriChar
  let (s, c) ← uriChars (c.left + 1) c
  return (String.ofList s, c)

/-- A tag handle: an exclamation mark, or a name between two. -/
def handle (c : Cursor) : Except Fault (String × Cursor) := do
  expect c (· == '!')
  if (← c.peekAt 1) == ' ' then return ("!", c.next)
  else
    let (name, c) ← c.next.span isWordChar
    expect c (· == '!')
    return ("!" ++ String.ofList name ++ "!", c.next)

/-- The directive behind a percent sign, up to the end of its line. -/
def directive (c : Cursor) : Except Fault (Token × Cursor) := do
  let (name, c) ← word c.next
  expect c isBlankOrEnd
  let (found, c) ← (
    if name == "YAML" then do
      let (major, c) ← versionNumber (← c.skipWhile (· == ' '))
      expect c (· == '.')
      let (_, c) ← versionNumber c.next
      expect c isBlankOrEnd
      return (Directive.version major, c)
    else if name == "TAG" then do
      let (h, c) ← handle (← c.skipWhile (· == ' '))
      expect c (· == ' ')
      let (start, c) ← uri (← c.skipWhile (· == ' '))
      expect c isBlankOrEnd
      return (Directive.tagHandle h start, c)
    else return (Directive.other, ← c.skipWhile fun ch => !isBreakOrEnd ch))
  let c ← c.endOfLine
  return (.directive found, c)

/-- The name behind the mark of an anchor or alias. -/
def anchorName (c : Cursor) : Except Fault (String × Cursor) := do
  let (name, c) ← word c.next
  expect c fun ch => isSpaceOrEnd ch || "?:,]\x7d%@\x60".toList.contains ch
  return (name, c)

/-- Whether an exclamation mark stands at a place or behind it, before the next blank or line
break. -/
def hasHandle (c : Cursor) : Except Fault Bool := do
  let (_, c) ← c.span fun ch => !isBlankOrEnd ch && ch != '!'
  c.at? (· == '!')

/-- The tag behind an exclamation mark: in full between angle brackets, the mark alone, or a suffix
behind a handle. -/
def tag (c : Cursor) : Except Fault (Token × Cursor) := do
  let first ← c.peekAt 1
  let (found, c) ← (
    if first == '<' then do
      let (s, c) ← uri (c.skip 2)
      expect c (· == '>')
      return (Token.tag none s, c.next)
    else if isSpaceOrEnd first then return (Token.tag none "!", c.next)
    else do
      let (h, c) ← if ← hasHandle c.next then handle c else pure ("!", c.next)
      let (s, c) ← uri c
      return (Token.tag (some h) s, c))
  expect c isBlankOrEnd
  return (found, c)

end RequestAuth.Yaml
