/-!
# Blank characters

Configured texts are trimmed before they are read. Blank are the characters that Unicode calls
white space or that separate lines, paragraphs or records; the zero-width space is not among them.
-/

namespace RequestAuth.Text

/-- White space, line and paragraph separators, and the four information separators. -/
def isBlank (c : Char) : Bool :=
  let n := c.toNat
  (9 ≤ n && n ≤ 13) || (28 ≤ n && n ≤ 32) || n == 133 || n == 160 || n == 5760 ||
    (8192 ≤ n && n ≤ 8202) || n == 8232 || n == 8233 || n == 8239 || n == 8287 || n == 12288

/-- The text without its leading blanks. -/
def trimLeft (s : List Char) : List Char := s.dropWhile isBlank

/-- The text without its trailing blanks. -/
def trimRight (s : List Char) : List Char := (s.reverse.dropWhile isBlank).reverse

/-- The text without the blanks at both ends. -/
def trim (s : List Char) : List Char := trimRight (trimLeft s)

/-- The text without a line feed at its end. -/
def withoutFinalBreak (s : List Char) : List Char :=
  if s.getLast? == some '\n' then s.dropLast else s

end RequestAuth.Text
