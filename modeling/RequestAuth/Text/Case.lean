import RequestAuth.Text.CaseTable

/-!
# Capital and small letters

Full case mapping of texts: a letter may become several (`ß` to `SS`), and a capital sigma becomes
`ς` at the end of a word and `σ` elsewhere. ASCII is decided without the tables.
-/

namespace RequestAuth.Text

/-- Whether a code point lies in one of the ranges. -/
def inRanges (ranges : List (Nat × Nat)) (n : Nat) : Bool :=
  ranges.any fun r => r.1 ≤ n && n ≤ r.2

/-- The image of a code point under the runs, itself when no run holds it. -/
def shifted (runs : List CaseRun) (n : Nat) : Nat :=
  match runs.find? fun r => r.first ≤ n && n ≤ r.last && (n - r.first) % r.stride == 0 with
  | some r => (n + r.shift).toNat
  | none => n

/-- The capital form of a character. -/
def upperChar (c : Char) : List Char :=
  if c.toNat < 128 then [c.toUpper]
  else match upperExpansions.lookup c.toNat with
    | some form => form.map Char.ofNat
    | none => [Char.ofNat (shifted upperRuns c.toNat)]

/-- The text in capitals. -/
def upper (s : List Char) : List Char := s.flatMap upperChar

/-- The small form of a character, whatever stands around it. -/
def lowerChar (c : Char) : List Char :=
  if c.toNat < 128 then [c.toLower]
  else if c.toNat = 0x130 then ['i', Char.ofNat 0x307]
  else [Char.ofNat (shifted lowerRuns c.toNat)]

/-- Whether a character is skipped when the neighbours of a sigma are looked at. -/
def isCaseIgnorable (c : Char) : Bool := inRanges caseIgnorableRanges c.toNat

/-- Whether a character is a letter with case. -/
def isCased (c : Char) : Bool := inRanges casedRanges c.toNat

/-- Whether the first character that is not skipped is a letter with case. -/
def startsCased (s : List Char) : Bool :=
  match s.dropWhile isCaseIgnorable with
  | c :: _ => isCased c
  | [] => false

/-- The capital sigma, the only letter whose small form depends on its neighbours. -/
def capitalSigma : Char := Char.ofNat 0x3A3

/-- The text in small letters, after a text that ends in a cased letter or not. -/
def lowerAfter (afterCased : Bool) : List Char → List Char
  | [] => []
  | c :: rest =>
    if c = capitalSigma then
      Char.ofNat (if afterCased && !startsCased rest then 0x3C2 else 0x3C3) :: lowerAfter true rest
    else
      lowerChar c ++ lowerAfter (if isCaseIgnorable c then afterCased else isCased c) rest

/-- The text in small letters. -/
def lower (s : List Char) : List Char := lowerAfter false s

/-- The first letter capital, the rest small. -/
def capitalize : List Char → List Char
  | [] => []
  | c :: rest => upperChar c ++ lower rest

/-- The bytes with the first letter capital and the rest small, as far as they are ASCII letters. -/
def capitalizeBytes : List UInt8 → List UInt8
  | [] => []
  | b :: rest =>
    let changed (change : Char → Char) (b : UInt8) : UInt8 := (change (.ofUInt8 b)).toNat.toUInt8
    changed Char.toUpper b :: rest.map (changed Char.toLower)

end RequestAuth.Text

namespace RequestAuth

/-- The text in capitals. -/
def upperText (s : String) : String := String.ofList (Text.upper s.toList)

/-- The text in small letters. -/
def lowerText (s : String) : String := String.ofList (Text.lower s.toList)

/-- The first letter capital, the rest small: `DIGEST` becomes `Digest`. -/
def capitalizeText (s : String) : String := String.ofList (Text.capitalize s.toList)

end RequestAuth
