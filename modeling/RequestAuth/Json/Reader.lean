import RequestAuth.Fault
import RequestAuth.Text.Digit
import RequestAuth.Text.Hex

/-!
# Reading JSON

`Json.read` reads one value from a text. Beyond the standard the words `NaN`, `Infinity` and
`-Infinity` are numbers. A control character inside a string, a byte-order mark and anything behind
the value are refused. An integer keeps its exact value, and one of more than 4300 digits is a fault
of its own; so are more collections inside one another than `maxDepth`. Of two equal keys of an
object the last gives the value, at the place of the first.

What is *not* formalized: texts with half of a surrogate pair in them. A text is one of Unicode
scalar values, so an escape for such a half without the other one is read as the replacement
character, where the program keeps the half. The limit of depth is the interpreter's
(`Interpreter.maxCalls`).
-/

namespace RequestAuth.Json

/-- The text without leading white space. -/
def skipSpace : List Char → List Char :=
  List.dropWhile fun c => c == ' ' || c == '\t' || c == '\n' || c == '\r'

/-- The character of a code unit that is no half of a pair. -/
def unitChar (n : Nat) : Char := if 0xD800 ≤ n ∧ n ≤ 0xDFFF then Char.ofNat 0xFFFD else Char.ofNat n

/-- The character that a short escape stands for. -/
def shortEscape? : Char → Option Char
  | '\"' => some '\"'
  | '\\' => some '\\'
  | '/' => some '/'
  | 'b' => some '\x08'
  | 'f' => some '\x0c'
  | 'n' => some '\n'
  | 'r' => some '\r'
  | 't' => some '\t'
  | _ => none

/-- The rest of a string behind its opening quote, and what follows the closing one. The characters
read so far are in `read`, last first; `high` is the first half of a pair that waits for the
second. -/
def stringRest? (read : List Char) (high : Option Nat) : List Char → Option (List Char × List Char)
  | [] => none
  | '\\' :: 'u' :: a :: b :: c :: d :: rest =>
    match Text.hexNumber? [a, b, c, d] with
    | none => none
    | some n =>
      match high with
      | some h =>
        if 0xDC00 ≤ n ∧ n ≤ 0xDFFF then
          stringRest? (Char.ofNat (0x10000 + (h - 0xD800) * 0x400 + (n - 0xDC00)) :: read) none rest
        else if 0xD800 ≤ n ∧ n ≤ 0xDBFF then stringRest? (unitChar h :: read) (some n) rest
        else stringRest? (unitChar n :: unitChar h :: read) none rest
      | none =>
        if 0xD800 ≤ n ∧ n ≤ 0xDBFF then stringRest? read (some n) rest
        else stringRest? (unitChar n :: read) none rest
  | '\\' :: c :: rest =>
    match shortEscape? c with
    | some e => stringRest? (e :: high.toList.map unitChar ++ read) none rest
    | none => none
  | '\"' :: rest => some ((high.toList.map unitChar ++ read).reverse, rest)
  | c :: rest =>
    if c.toNat < 0x20 then none
    else stringRest? (c :: high.toList.map unitChar ++ read) none rest

/-- Whether a character is an ASCII digit. -/
def isDigit (c : Char) : Bool := '0' ≤ c && c ≤ '9'

/-- The number that a run of digits spells. -/
def natOf (digits : List Char) : Nat := digits.foldl (fun n c => 10 * n + (c.toNat - 48)) 0

/-- The digits of the fraction at the head of a text, none when there is no fraction. -/
def fraction : List Char → List Char × List Char
  | '.' :: rest =>
    match rest.span isDigit with
    | ([], _) => ([], '.' :: rest)
    | (digits, rest) => (digits, rest)
  | s => ([], s)

/-- The exponent at the head of a text, if there is one. -/
def exponent? : List Char → Option Int × List Char
  | e :: rest =>
    if e = 'e' ∨ e = 'E' then
      let (negative, digits) := match rest with
        | '-' :: rest => (true, rest)
        | '+' :: rest => (false, rest)
        | rest => (false, rest)
      match digits.span isDigit with
      | ([], _) => (none, e :: rest)
      | (ds, after) => (some (if negative then -(natOf ds : Int) else natOf ds), after)
    else (none, e :: rest)
  | [] => (none, [])

/-- The integer part at the head of a text: a zero, or digits that do not start with one. -/
def integerPart? : List Char → Option (List Char × List Char)
  | '0' :: rest => some (['0'], rest)
  | s =>
    match s.span isDigit with
    | ([], _) => none
    | (digits, rest) => some (digits, rest)

/-- The number at the head of a text behind its sign. -/
def number (negative : Bool) (s : List Char) : Except ReadFault (Value × List Char) :=
  match integerPart? s with
  | none => .error .malformedJson
  | some (whole, rest) =>
    let (part, rest) := fraction rest
    let (power, rest) := exponent? rest
    if part.isEmpty && power.isNone then
      if Text.maxIntDigits < whole.length then .error .badValue
      else
        let n : Int := natOf whole
        .ok (.int (if negative then -n else n), rest)
    else
      let places : Int := power.getD 0 - part.length
      .ok (.float (Decimal.toFloat negative (natOf (whole ++ part)) places), rest)

/-- A text behind a fixed word, if it starts with the word. -/
def afterWord? (word : String) (s : List Char) : Option (List Char) :=
  let w := word.toList
  if w.isPrefixOf s then some (s.drop w.length) else none

/-- The words that stand for values. -/
def words : List (String × Value) :=
  [("null", .null), ("true", .bool true), ("false", .bool false), ("NaN", .nan 0),
    ("Infinity", .float (1.0 / 0.0)), ("-Infinity", .float (-1.0 / 0.0))]

/-- The value of a word at the head of a text, or a number. -/
def scalar (s : List Char) : Except ReadFault (Value × List Char) :=
  match words.findSome? fun (w, v) => (afterWord? w s).map fun rest => (v, rest) with
  | some found => .ok found
  | none =>
    match s with
    | '-' :: rest => number true rest
    | _ => number false s

/-- The most collections that may stand inside one another, with a call of the interpreter for
each. -/
def maxDepth : Nat := Interpreter.maxCalls - 12

mutual

/-- The value at the head of a text and what follows it, inside as many collections as `depth`. -/
def value (depth : Nat) : (fuel : Nat) → List Char → Except ReadFault (Value × List Char)
  | 0, _ => .error .malformedJson
  | fuel + 1, s =>
    match s with
    | '\"' :: rest =>
      match stringRest? [] none rest with
      | some (content, rest) => .ok (.text (String.ofList content), rest)
      | none => .error .malformedJson
    | '[' :: rest =>
      if maxDepth ≤ depth then .error (.tooDeep "array")
      else match skipSpace rest with
      | ']' :: rest => .ok (.list [], rest)
      | rest => do
        let (items, rest) ← elements (depth + 1) fuel rest
        return (.list items, rest)
    | '{' :: rest =>
      if maxDepth ≤ depth then .error (.tooDeep "object")
      else match skipSpace rest with
      | '}' :: rest => .ok (.map [], rest)
      | rest => do
        let (entries, rest) ← members (depth + 1) fuel rest
        return (.map (ofEntries entries), rest)
    | s => scalar s

/-- The elements of an array up to its closing bracket. -/
def elements (depth : Nat) : (fuel : Nat) → List Char → Except ReadFault (List Value × List Char)
  | 0, _ => .error .malformedJson
  | fuel + 1, s => do
    let (v, rest) ← value depth fuel s
    match skipSpace rest with
    | ']' :: rest => return ([v], rest)
    | ',' :: rest =>
      let (vs, rest) ← elements depth fuel (skipSpace rest)
      return (v :: vs, rest)
    | _ => .error .malformedJson

/-- The members of an object up to its closing brace. -/
def members (depth : Nat) :
    (fuel : Nat) → List Char → Except ReadFault (List (Value × Value) × List Char)
  | 0, _ => .error .malformedJson
  | fuel + 1, '\"' :: rest =>
    match stringRest? [] none rest with
    | none => .error .malformedJson
    | some (key, rest) =>
      match skipSpace rest with
      | ':' :: rest => do
        let (v, rest) ← value depth fuel (skipSpace rest)
        match skipSpace rest with
        | '}' :: rest => return ([(.text (String.ofList key), v)], rest)
        | ',' :: rest =>
          let (vs, rest) ← members depth fuel (skipSpace rest)
          return ((.text (String.ofList key), v) :: vs, rest)
        | _ => .error .malformedJson
      | _ => .error .malformedJson
  | _ + 1, _ => .error .malformedJson

end

/-- The value that a text spells. -/
def read (s : String) : Except ReadFault Value := do
  let cs := s.toList
  let (v, rest) ← value 0 (2 * cs.length + 2) (skipSpace cs)
  if (skipSpace rest).isEmpty then return v else .error .malformedJson

/-- That too many collections of a kind stand inside one another. -/
def tooDeep (collection : String) : Fault :=
  .tooDeep s!" while decoding a JSON {collection} from a unicode string"

end RequestAuth.Json
