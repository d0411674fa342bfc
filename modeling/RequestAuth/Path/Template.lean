/-!
# Path templates

A declared path such as `/pets/{petId}` stands for all paths that have some text without a slash in
place of each parameter. A parameter is a name between braces, without slashes and braces in it. The
text between two parameters stands for itself, unless it begins with an opening brace: then it, too,
stands for any text without a slash.

`Instantiates` says what a template stands for, and `matchesPieces` decides it. `isBefore` ranks
declared paths: those with fewer braces come first, of those the longer ones, and then the order of
code points decides.
-/

namespace RequestAuth.Path

/-- A piece of a template. -/
inductive Piece where
  /-- A text that stands for itself. -/
  | literal (text : List Char)
  /-- Any non-empty text without a slash. -/
  | parameter
  deriving DecidableEq

/-- The piece that a text between parameters is. -/
def ofText (text : List Char) : Piece :=
  if text.head? = some '{' then .parameter else .literal text

/-- Whether a character ends the name of a parameter. -/
def endsName (c : Char) : Bool := c == '/' || c == '{' || c == '}'

/-- What follows a parameter, given what follows its opening brace. -/
def afterParameter? (s : List Char) : Option (List Char) :=
  match s.dropWhile fun c => !endsName c with
  | '}' :: rest => some rest
  | _ => none

theorem length_afterParameter? {s rest : List Char} (h : afterParameter? s = some rest) :
    rest.length < s.length := by
  unfold afterParameter? at h
  split at h
  · rename_i tail heq
    cases h
    have : (s.dropWhile fun c => !endsName c).length ≤ s.length :=
      (List.dropWhile_sublist _).length_le
    rw [heq, List.length_cons] at this
    omega
  · cases h

/-- The pieces of a path, `text` being read since the last parameter. -/
def piecesAfter (text : List Char) : List Char → List Piece
  | [] => [ofText text]
  | c :: rest =>
    if c = '{' then
      match _h : afterParameter? rest with
      | some tail => ofText text :: .parameter :: piecesAfter [] tail
      | none => piecesAfter (text ++ [c]) rest
    else piecesAfter (text ++ [c]) rest
termination_by s => s.length
decreasing_by
  · have := length_afterParameter? _h
    simp only [List.length_cons]
    omega
  · simp
  · simp

/-- The pieces of a declared path. -/
def pieces (path : String) : List Piece := piecesAfter [] path.toList

/-- A path is a template's pieces one after the other, with some text in place of the parameters. -/
inductive Instantiates : List Piece → List Char → Prop where
  /-- No piece stands for no text. -/
  | nil : Instantiates [] []
  /-- A text stands for itself. -/
  | literal {text s : List Char} {ps : List Piece} :
    Instantiates ps s → Instantiates (.literal text :: ps) (text ++ s)
  /-- A parameter stands for a text with characters but without slashes. -/
  | parameter {value s : List Char} {ps : List Piece} :
    value ≠ [] → '/' ∉ value → Instantiates ps s → Instantiates (.parameter :: ps) (value ++ s)

/-- What may follow a parameter that stands at the start of a text. -/
def rests : List Char → List (List Char)
  | [] => []
  | c :: s => if c = '/' then [] else s :: rests s

/-- Whether a path is an instance of some pieces. -/
def matchesPieces : List Piece → List Char → Bool
  | [], s => s.isEmpty
  | .literal text :: ps, s => text.isPrefixOf s && matchesPieces ps (s.drop text.length)
  | .parameter :: ps, s => (rests s).any (matchesPieces ps)

/-- Whether a path is an instance of a declared one. -/
def isInstance (declared path : String) : Bool := matchesPieces (pieces declared) path.toList

/-- The number of opening braces in a path. -/
def braces (path : String) : Nat := path.toList.count '{'

/-- Whether a declared path is tried before another one. -/
def isBefore (p q : String) : Bool :=
  braces p < braces q ||
    (braces p == braces q && (q.length < p.length || (p.length == q.length && p < q)))

/-- The declared paths in the order in which they are tried. -/
def ranked (paths : List String) : List String :=
  paths.eraseDups.mergeSort fun p q => !isBefore q p

end RequestAuth.Path
