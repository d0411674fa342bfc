import RequestAuth.Yaml.Cursor

/-!
# Plain scalars

A scalar without quotes runs over blanks and, where the indentation allows it, over line breaks: one
break becomes a blank, further ones stay. It ends before a comment, a colon with a blank behind it,
a document marker and, inside brackets, before their punctuation. Tabs are no part of it.
-/

namespace RequestAuth.Yaml

/-- Whether a plain scalar ends before a character, whatever is behind it. -/
def endsPlain (inFlow : Bool) (c : Char) : Bool :=
  isSpaceOrEnd c || (inFlow && ",?[]\x7b\x7d".toList.contains c)

/-- Whether a plain scalar ends before a colon with a character behind it. -/
def endsKey (inFlow : Bool) (next : Char) : Bool :=
  isSpaceOrEnd next || (inFlow && ",[]\x7b\x7d".toList.contains next)

/-- The count of the characters of a plain scalar up to the next blank or end, behind `count` of
them; `ending` is what is read behind the last character. -/
def plainLength (inFlow : Bool) (ending : Except Fault Char) (count : Nat) :
    List Char → Except Fault Nat
  | [] => do
    let _ ← ending
    return count
  | c :: rest => do
    if endsPlain inFlow c then return count
    else if c == ':' then
      let next ← match rest with
        | [] => ending
        | next :: _ => pure next
      if endsKey inFlow next then return count else plainLength inFlow ending (count + 1) rest
    else plainLength inFlow ending (count + 1) rest

/-- The line breaks from a place on, blanks between them skipped, up to a document marker (`none`)
or other text. -/
def plainBreaks : (fuel : Nat) → Cursor → Except Fault (Option (List Char) × Cursor)
  | 0, c => .ok (some [], c)
  | fuel + 1, c => do
    let c ← c.skipWhile (· == ' ')
    match ← c.lineBreak? with
    | none => return (some [], c)
    | some (ch, c) =>
      if ← c.atMarker then return (none, c)
      else
        let (breaks, c) ← plainBreaks fuel c
        return (breaks.map (ch :: ·), c)

/-- What blanks and line breaks between two words of a plain scalar stand for, whether a line was
broken, and the place behind them. Nothing is stood for when the scalar cannot go on. -/
def plainGap (c : Cursor) : Except Fault (List Char × Bool × Cursor) := do
  let (blanks, c) ← c.span (· == ' ')
  match ← c.lineBreak? with
  | none => return (blanks, false, c)
  | some (first, c) =>
    if ← c.atMarker then return ([], true, c)
    else
      match ← plainBreaks (c.left + 1) c with
      | (none, c) => return ([], true, c)
      | (some breaks, c) =>
        if first != '\n' then return (first :: breaks, true, c)
        else if breaks.isEmpty then return ([' '], true, c)
        else return (breaks, true, c)

/-- The words of a plain scalar from a place on, after a gap, and whether a line was broken behind
the last one. The pieces read so far are in `read`, last first. -/
def plainWords (inFlow : Bool) (indent : Int) (read : List (List Char)) (gap : List Char)
    (broken : Bool) : (fuel : Nat) → Cursor → Except Fault (List (List Char) × Bool × Cursor)
  | 0, c => .ok (read, broken, c)
  | fuel + 1, c => do
    if (← c.peek) == '#' then return (read, broken, c)
    else
      let n ← plainLength inFlow c.atEnd 0 c.rest
      if n = 0 then return (read, broken, c)
      else
        let read := c.rest.take n :: gap :: read
        let (nextGap, broken, after) ← plainGap (c.skip n)
        if nextGap.isEmpty then return (read, broken, after)
        else if (← after.peek) == '#' || (!inFlow && (after.column : Int) < indent) then
          return (read, broken, after)
        else plainWords inFlow indent read nextGap broken fuel after

/-- The plain scalar at a place: its text, whether the place behind it is the start of a line, and
that place. -/
def plainScalar (inFlow : Bool) (indent : Int) (c : Cursor) :
    Except Fault (String × Bool × Cursor) := do
  let (read, broken, c) ← plainWords inFlow indent [] [] false (c.left + 1) c
  return (String.ofList read.reverse.flatten, broken, c)

end RequestAuth.Yaml
