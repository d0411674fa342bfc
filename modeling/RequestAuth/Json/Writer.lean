import RequestAuth.Value.Access

/-!
# Writing JSON

`Json.write` writes a value in ASCII, on one line or with every item on a line of its own, indented
by two spaces for each enclosing collection. Characters beyond ASCII are written as the escapes of
their UTF-16 units. Byte strings, dates and sets have no JSON form, and neither have keys that are
no text, number, truth value or null. More collections inside one another than `maxWrittenDepth` are
a fault.
-/

namespace RequestAuth.Json

/-- An escape of a UTF-16 unit. -/
def unitEscape (n : Nat) : List Char := '\\' :: 'u' :: Text.hexDigits 4 n

/-- A character inside a string. -/
def escapeChar (c : Char) : List Char :=
  if c = '\"' ∨ c = '\\' then ['\\', c]
  else if c = '\n' then ['\\', 'n']
  else if c = '\r' then ['\\', 'r']
  else if c = '\t' then ['\\', 't']
  else if c = '\x08' then ['\\', 'b']
  else if c = '\x0c' then ['\\', 'f']
  else if 32 ≤ c.toNat ∧ c.toNat < 127 then [c]
  else if c.toNat < 0x10000 then unitEscape c.toNat
  else
    let n := c.toNat - 0x10000
    unitEscape (0xD800 + n / 0x400) ++ unitEscape (0xDC00 + n % 0x400)

/-- A string with its quotes. -/
def stringText (s : String) : String :=
  String.ofList ('\"' :: s.toList.flatMap escapeChar ++ ['\"'])

/-- A double, with words for the infinite ones. -/
def doubleText (x : Float) : String :=
  if x.isInf then (if 0 < x then "Infinity" else "-Infinity") else floatText x

/-- An integer. One that is too long is a fault. -/
def intText (n : Int) : Except Fault String := (Value.int n).written

/-- A member's name. -/
def keyText : Value → Except Fault String
  | .text s => .ok s
  | .int n => intText n
  | .float x => .ok (doubleText x)
  | .nan _ => .ok "NaN"
  | .bool b => .ok (if b then "true" else "false")
  | .null => .ok "null"
  | _ => .error .typeMismatch

/-- What separates items and stands inside the brackets at a depth: line breaks with two spaces for
each level, or nothing but a blank between items when the text is to stay on one line. -/
def lineBreak (indented : Bool) (depth : Nat) : String :=
  if indented then "\n" ++ String.ofList (List.replicate (2 * depth) ' ') else ""

/-- Items between brackets. -/
def bracketed (indented : Bool) (depth : Nat) (opening closing : String) (items : List String) :
    String :=
  if items.isEmpty then opening ++ closing
  else
    let separator := if indented then "," ++ lineBreak true (depth + 1) else ", "
    opening ++ lineBreak indented (depth + 1) ++ String.intercalate separator items ++
      lineBreak indented depth ++ closing

/-- That a collection is found inside itself. -/
def circular : Fault := .valueInvalid "Circular reference detected"

/-- The most collections inside one another that are written, with a call for each. -/
def maxWrittenDepth : Nat := Interpreter.maxCalls - 10

/-- That a collection may be written at a depth; otherwise a fault. -/
def checkDepth (depth : Nat) : Except Fault Unit :=
  if maxWrittenDepth ≤ depth then .error (.tooDeep "") else .ok ()

/-- How the unknowns of equations are written at a depth, those that stand alone and those with
their equations. -/
structure Knots where
  /-- An unknown of the equations around. -/
  unknown : Nat → Nat → Except Fault String
  /-- An unknown with equations of its own. -/
  cyclic : Nat → List (Nat × Value) → Nat → Except Fault String

mutual

/-- The text of a value at a depth. -/
def writeAt (knots : Knots) (indented : Bool) (depth : Nat) : Value → Except Fault String
  | .null => .ok "null"
  | .bool b => .ok (if b then "true" else "false")
  | .int n => intText n
  | .float x => .ok (doubleText x)
  | .nan _ => .ok "NaN"
  | .text s => .ok (stringText s)
  | .list items => do
    checkDepth depth
    return bracketed indented depth "[" "]" (← writeItems knots indented (depth + 1) items)
  | .pair a b => do
    checkDepth depth
    let first ← writeAt knots indented (depth + 1) a
    let second ← writeAt knots indented (depth + 1) b
    return bracketed indented depth "[" "]" [first, second]
  | .map entries => do
    checkDepth depth
    let members ← writeMembers knots indented (depth + 1) entries
    return bracketed indented depth "\x7b" "\x7d" members
  | .unknown n => knots.unknown depth n
  | .cyclic equations n => knots.cyclic depth equations n
  | .set _ | .bytes _ | .date _ | .moment _ => .error .typeMismatch

/-- The texts of the items of an array. -/
def writeItems (knots : Knots) (indented : Bool) (depth : Nat) :
    List Value → Except Fault (List String)
  | [] => .ok []
  | v :: rest => do
    let first ← writeAt knots indented depth v
    return first :: (← writeItems knots indented depth rest)

/-- The texts of the members of an object. -/
def writeMembers (knots : Knots) (indented : Bool) (depth : Nat) :
    List (Value × Value) → Except Fault (List String)
  | [] => .ok []
  | (k, v) :: rest => do
    let key ← keyText k
    let first ← writeAt knots indented depth v
    return (stringText key ++ ": " ++ first) :: (← writeMembers knots indented depth rest)

end

/-- The text of an unknown at a depth, inside the collections of some others. -/
def writeUnknown (indented : Bool) (equations : List (Nat × Value)) :
    (fuel : Nat) → (around : List Nat) → (depth : Nat) → Nat → Except Fault String
  | 0, _, _, _ => .error circular
  | fuel + 1, around, depth, n =>
    match equations.lookup n with
    | some content =>
      if around.contains n then .error circular
      else
        writeAt ⟨writeUnknown indented equations fuel (n :: around), fun _ _ _ => .error circular⟩
          indented depth content
    | none => .error circular

/-- The text of a value, on one line or indented. A collection inside itself is a fault. -/
def write (indented : Bool) (v : Value) : Except Fault String :=
  writeAt ⟨fun _ _ => .error circular, fun depth equations n =>
    writeUnknown indented equations (equations.length + 1) [] depth n⟩ indented 0 v

end RequestAuth.Json
