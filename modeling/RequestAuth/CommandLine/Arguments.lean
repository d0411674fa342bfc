import RequestAuth.Text.Digit

/-!
# Arguments

The command `describe FILE --path PATH [--method METHOD]`, with the options `--verbose` (`-v`) in
front of the command and `--help` (`-h`) everywhere. Long options may be cut short as long as only
one begins so, a value may stand behind an equals sign, of repeated options the last counts, and
behind `--` nothing is an option. Negative numbers and arguments with blanks are no options either.
Behind an equals sign `--` stands for no text at all.
-/

namespace RequestAuth.CommandLine

/-- The options. -/
inductive Flag where
  /-- Say how the command is used. -/
  | help
  /-- Say more about what is done. -/
  | verbose
  /-- The declared path of the operation. -/
  | path
  /-- The method of the operation. -/
  | method
  deriving DecidableEq

/-- Whether an option has a value. -/
def Flag.takesValue : Flag → Bool
  | .help | .verbose => false
  | .path | .method => true

/-- The names of the options in front of the command. -/
def outerNames : List (String × Flag) :=
  [("-h", .help), ("--help", .help), ("-v", .verbose), ("--verbose", .verbose)]

/-- The names of the options of the command. -/
def innerNames : List (String × Flag) :=
  [("-h", .help), ("--help", .help), ("--path", .path), ("--method", .method)]

/-- What the arguments ask for. -/
inductive Arguments where
  /-- To describe an operation of a file. -/
  | describe (file path method : String)
  /-- To say how the command is used. -/
  | help
  deriving DecidableEq

/-- Arguments that make no sense. -/
inductive Misuse where
  /-- They do not have the form that is asked for. -/
  | usage

/-- What an argument is. -/
inductive Mark where
  /-- No option. -/
  | value
  /-- The argument behind which nothing is an option. -/
  | dashes
  /-- An option, if it is known, with its name and the value that stands in it. -/
  | option (flag : Option Flag) (name : List Char) (attached : Option (List Char))

/-- What stands before the first equals sign, and what stands behind it, if there is one. -/
def splitValue (s : List Char) : List Char × Option (List Char) :=
  if s.contains '=' then
    (s.takeWhile (· != '='), some ((s.dropWhile (· != '=')).drop 1))
  else (s, none)

/-- Whether an argument is a negative number. A line break may stand behind it. -/
def isNegativeNumber (s : List Char) : Bool :=
  match Text.withoutFinalBreak s with
  | '-' :: rest =>
    let isDigit (c : Char) : Bool := (Text.decimalValue? c).isSome
    let tail := rest.dropWhile isDigit
    (tail.isEmpty && !rest.isEmpty) ||
      (tail.head? == some '.' && 1 < tail.length && (tail.drop 1).all isDigit)
  | _ => false

/-- The options that an argument may mean when it is no option's name: for a long one all that begin
with it, for a short one the option of its first letter, with the rest as its value, and all that
begin with it. -/
def candidates (names : List (String × Flag)) (s : List Char) : List Mark :=
  if ['-', '-'].isPrefixOf s then
    let (front, attached) := splitValue s
    (names.filter fun n => front.isPrefixOf n.1.toList).map fun n =>
      .option (some n.2) n.1.toList attached
  else
    names.filterMap fun n =>
      if n.1.toList == s.take 2 then some (.option (some n.2) n.1.toList (some (s.drop 2)))
      else if s.isPrefixOf n.1.toList then some (.option (some n.2) n.1.toList none)
      else none

/-- The option of a name. -/
def flag? (names : List (String × Flag)) (name : List Char) : Option Flag :=
  names.lookup (String.ofList name)

/-- What an argument before `--` is. One that may mean several options makes no sense. -/
def mark (names : List (String × Flag)) (s : List Char) : Except Misuse Mark :=
  match s with
  | '-' :: _ :: _ =>
    let (front, attached) := splitValue s
    match flag? names s, flag? names front with
    | some f, _ => .ok (.option (some f) s none)
    | none, some f => .ok (.option (some f) front attached)
    | none, none =>
      match candidates names s with
      | [m] => .ok m
      | _ :: _ :: _ => .error .usage
      | [] =>
        if isNegativeNumber s || s.contains ' ' then .ok .value else .ok (.option none s none)
  | _ => .ok .value

/-- What each argument is. -/
def marks (names : List (String × Flag)) : List String → Except Misuse (List (String × Mark))
  | [] => .ok []
  | "--" :: rest => .ok (("--", .dashes) :: rest.map fun s => (s, .value))
  | s :: rest => do return (s, ← mark names s.toList) :: (← marks names rest)

/-- Whether letters joined to an option without a value are options without values themselves, and
whether one of them asks for help. A letter that is none makes no sense. -/
def joined (names : List (String × Flag)) : List Char → Except Misuse Bool
  | [] => .ok false
  | c :: rest =>
    match flag? names ['-', c] with
    | some f => do return (← joined names rest) || f == .help
    | none => .error .usage

/-- Whether an option without a value asks for help, given what is attached to it. -/
def asksHelp (names : List (String × Flag)) (flag : Flag) (name : List Char)
    (attached : Option (List Char)) : Except Misuse Bool :=
  match attached with
  | none => .ok (flag == .help)
  | some s =>
    if name.length = 2 ∧ name ≠ ['-', '-'] ∧ ¬ s.isEmpty then do
      return (← joined names s) || flag == .help
    else .error .usage

/-- What the command has been given. -/
structure Given where
  /-- The file. -/
  file : Option String
  /-- The path. -/
  path : Option String
  /-- The method. -/
  method : String
  /-- Whether there were arguments that nothing asks for. -/
  hasExtras : Bool

namespace Given

/-- Nothing but the usual method. -/
def start : Given := ⟨none, none, "GET", false⟩

/-- The value that is joined to an option behind an equals sign. Two dashes count as no text. -/
def joinedValue (s : List Char) : String := if s == ['-', '-'] then "" else String.ofList s

/-- Take the value of an option. -/
def put (g : Given) (flag : Flag) (value : String) : Given :=
  match flag with
  | .path => { g with path := some value }
  | .method => { g with method := value }
  | .help | .verbose => g

/-- Take the first argument that is no option as the file; further ones are asked for by nothing. -/
def putFile (g : Given) (value : String) : Given :=
  if g.file.isSome then { g with hasExtras := true } else { g with file := some value }

/-- Take the arguments behind the last option. The dashes may stand before or behind the file. -/
def putRest (g : Given) : List (String × Mark) → Given
  | [] => g
  | (_, .dashes) :: rest =>
    if g.file.isSome then { g with hasExtras := true }
    else match rest with
      | [] => { g with hasExtras := true }
      | [(file, _)] => { g with file := some file }
      | (file, _) :: _ => { g with file := some file, hasExtras := true }
  | (file, _) :: rest =>
    if g.file.isSome then { g with hasExtras := true }
    else match rest with
      | [] | [(_, .dashes)] => { g with file := some file }
      | _ => { g with file := some file, hasExtras := true }

end Given

/-- Whether an argument is an option. -/
def isOption : String × Mark → Bool
  | (_, .option ..) => true
  | _ => false

/-- What the command is given by its arguments, none when it is asked for help. -/
def take (g : Given) : List (String × Mark) → Except Misuse (Option Given)
  | [] => .ok (some g)
  | (s, m) :: rest =>
    if !(((s, m) :: rest).any isOption) then .ok (some (g.putRest ((s, m) :: rest)))
    else
      match m with
      | .value | .dashes => take (g.putFile s) rest
      | .option none _ _ => take { g with hasExtras := true } rest
      | .option (some f) name attached =>
        if f.takesValue then
          match attached, rest with
          | some value, rest => take (g.put f (Given.joinedValue value)) rest
          | none, (value, .value) :: rest => take (g.put f value) rest
          | none, _ => .error .usage
        else do
          if ← asksHelp innerNames f name attached then return none
          else take g rest

/-- What the arguments behind `describe` ask for; `hasExtras` tells whether there were arguments
before it that nothing asks for. -/
def readDescribe (hasExtras : Bool) (args : List String) : Except Misuse Arguments := do
  match ← take .start (← marks innerNames args) with
  | none => return .help
  | some ⟨some file, some path, method, extras⟩ =>
    if extras || hasExtras then .error .usage else return .describe file path method
  | some _ => .error .usage

/-- What arguments ask for, given what each of them is. -/
def readMarked (hasExtras : Bool) : List (String × Mark) → Except Misuse Arguments
  | [] => .error .usage
  | (s, m) :: rest =>
    match m with
    | .value =>
      if s == "describe" then readDescribe hasExtras (rest.map Prod.fst) else .error .usage
    | .dashes => .error .usage
    | .option none _ _ => readMarked true rest
    | .option (some f) name attached => do
      if ← asksHelp outerNames f name attached then return .help else readMarked hasExtras rest

/-- What arguments ask for. -/
def readArguments (args : List String) : Except Misuse Arguments := do
  readMarked false (← marks outerNames args)

end RequestAuth.CommandLine
