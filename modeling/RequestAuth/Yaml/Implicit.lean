import RequestAuth.Yaml.Tag
import RequestAuth.Yaml.Timestamp

/-!
# What a plain scalar is

The forms of a scalar without a tag that make it a truth value, a number, a date or nothing. A
double needs a point, and an exponent needs its sign; numbers may be written in base 60 with colons.
The marks of tags, anchors and aliases have no meaning as scalars. Whatever has none of the forms is
a text.
-/

namespace RequestAuth.Yaml

/-- Whether a character is a digit or an underscore. -/
def isDigitOrMark (c : Char) : Bool := c.isDigit || c == '_'

/-- The text behind a sign. -/
def dropSign : List Char → List Char
  | '-' :: rest => rest
  | '+' :: rest => rest
  | s => s

/-- The text behind the digit that a number starts with and the digits and underscores that follow
it. -/
def dropNumber? : List Char → Option (List Char)
  | c :: rest => if c.isDigit then some (rest.dropWhile isDigitOrMark) else none
  | [] => none

/-- The text behind the base-60 digits, each with a colon in front. -/
def dropSixties : List Char → List Char
  | ':' :: a :: b :: rest =>
    if b.isDigit then (if '0' ≤ a ∧ a ≤ '5' then dropSixties rest else ':' :: a :: b :: rest)
    else if a.isDigit then dropSixties (b :: rest)
    else ':' :: a :: b :: rest
  | [':', a] => if a.isDigit then [] else [':', a]
  | s => s

/-- Whether a text is a number in base 60 up to its point. -/
def isSixty (s : List Char) : Bool :=
  match dropNumber? s with
  | some (':' :: rest) => dropSixties (':' :: rest) == []
  | _ => false

/-- Whether a text is an exponent or empty. -/
def isExponent : List Char → Bool
  | [] => true
  | e :: sign :: rest =>
    (e == 'e' || e == 'E') && (sign == '+' || sign == '-') && !rest.isEmpty && rest.all Char.isDigit
  | _ => false

/-- Whether a text has the form of an integer. -/
def isInteger (s : List Char) : Bool :=
  match dropSign s with
  | ['0'] => true
  | '0' :: 'b' :: rest => !rest.isEmpty && rest.all fun c => c == '0' || c == '1' || c == '_'
  | '0' :: 'x' :: rest => !rest.isEmpty && rest.all fun c => (Text.hexValue? c).isSome || c == '_'
  | '0' :: rest => rest.all fun c => ('0' ≤ c && c ≤ '7') || c == '_'
  | c :: rest =>
    ('1' ≤ c && c ≤ '9') && (rest.all isDigitOrMark || isSixty (c :: rest))
  | [] => false

/-- Whether a text with a point has the form of a double. -/
def isPointed (s : List Char) : Bool :=
  let unsigned := dropSign s
  match dropNumber? unsigned with
  | some ('.' :: rest) => isExponent (rest.dropWhile isDigitOrMark)
  | some (':' :: rest) =>
    match dropSixties (':' :: rest) with
    | '.' :: tail => tail.all isDigitOrMark
    | _ => false
  | some _ => false
  | none =>
    match s with
    | '.' :: rest =>
      match dropNumber? rest with
      | some rest => isExponent rest
      | none => false
    | _ => false

/-- Whether a text has the form of a double. -/
def isDouble (s : List Char) : Bool :=
  [".inf", ".Inf", ".INF"].contains (String.ofList (dropSign s)) ||
    [".nan", ".NaN", ".NAN"].contains (String.ofList s) || isPointed s

/-- The words for truth and falsehood. -/
def truthWords : List String :=
  ["yes", "Yes", "YES", "no", "No", "NO", "true", "True", "TRUE", "false", "False", "FALSE",
    "on", "On", "ON", "off", "Off", "OFF"]

/-- What a scalar without a tag is by its form. A line break at its end is ignored. -/
def implicitTag (content : String) : Tag :=
  if content.isEmpty then .null
  else
    let s := Text.withoutFinalBreak content.toList
    let word := String.ofList s
    if truthWords.contains word then .bool
    else if isDouble s then .float
    else if isInteger s then .int
    else if word == "<<" then .merge
    else if ["~", "null", "Null", "NULL"].contains word then .null
    else if isTimestamp s then .timestamp
    else if word == "=" then .value
    else if ["!", "&", "*"].contains word then .unknown
    else .text

end RequestAuth.Yaml
