import RequestAuth.Calendar
import RequestAuth.Decimal.Shortest

/-!
# Values

The dynamic values that a document, a configuration or a token reply is made of, with their
truth, their equality as mapping keys, and mappings that keep the order of insertion.

A list or mapping may contain itself, which an alias inside its own anchor makes. Such a value is
given by a system of equations, one for each of the collections in it (`cyclic`); `opened` gives the
collection itself, with values of the same kind inside, so that one can look as deep as one likes.

What is *not* formalized: texts with half of a surrogate pair in them, since a text is one of
Unicode scalar values; offsets from universal time with seconds; and values of any other type, which
neither YAML nor JSON makes.
-/

namespace RequestAuth

/-- A dynamic value. A mapping keeps its entries in order and has no two equal keys. -/
inductive Value where
  /-- The absent value. -/
  | null
  /-- A truth value. -/
  | bool (b : Bool)
  /-- An integer of any size. -/
  | int (n : Int)
  /-- A double-precision number, which is one. -/
  | float (x : Float)
  /-- What a double is that is no number. It is only the same as one with the same mark. -/
  | nan (mark : Nat)
  /-- A text. -/
  | text (s : String)
  /-- A list. -/
  | list (items : List Value)
  /-- An ordered pair, an entry of an ordered mapping written as a list. -/
  | pair (first second : Value)
  /-- A mapping. -/
  | map (entries : List (Value × Value))
  /-- A set, in the order in which it lists its items. -/
  | set (items : List Value)
  /-- A byte string. -/
  | bytes (content : List UInt8)
  /-- A calendar day. -/
  | date (d : Date)
  /-- A calendar day with a time of day. -/
  | moment (t : Moment)
  /-- An unknown of the equations around it. -/
  | unknown (n : Nat)
  /-- The collection that an unknown stands for: each equation gives the content of one, with
  unknowns for the collections inside that contain themselves in turn. -/
  | cyclic (equations : List (Nat × Value)) (n : Nat)
  deriving Inhabited

namespace Value

/-- An item of a collection that equations give, with the equations that its unknowns need. -/
def tied (equations : List (Nat × Value)) : Value → Value
  | .unknown n => .cyclic equations n
  | .pair a b => .pair (tied equations a) (tied equations b)
  | v => v

/-- The collection that a value with equations is; any other value itself. -/
def opened : Value → Value
  | .cyclic equations n =>
    match equations.lookup n with
    | some (.list items) => .list (items.map (tied equations))
    | some (.map entries) => .map (entries.map fun e => (e.1, tied equations e.2))
    | some v => v
    | none => .null
  | v => v

/-- Null, false, zero and everything empty are false; all else is true. -/
def isTrue : Value → Bool
  | .null => false
  | .bool b => b
  | .int n => n != 0
  | .float x => !(x == 0)
  | .text s => !s.isEmpty
  | .list items => !items.isEmpty
  | .map entries => !entries.isEmpty
  | .set items => !items.isEmpty
  | .bytes content => !content.isEmpty
  | .nan _ | .pair .. | .date _ | .moment _ | .unknown _ | .cyclic .. => true

/-- The integer that a double is exactly equal to, if any. -/
def wholeOf? (x : Float) : Option Int :=
  let bits := x.toBits
  if (bits.toNat / Nat.pow 2 52) % 2048 = 2047 then none
  else
    let (p, q) := Decimal.ratioOf bits
    if p % q = 0 then
      some (if Nat.pow 2 63 ≤ bits.toNat then -((p / q : Nat) : Int) else ((p / q : Nat) : Int))
    else none

/-- Whether two moments are the same: those with an offset are compared in universal time, and one
with an offset never equals one without. -/
def sameMoment (a b : Moment) : Bool :=
  a.offset.isSome == b.offset.isSome && a.universal == b.universal

mutual

/-- Whether two values are the same as mapping keys: numbers by value whatever their kind, what is
no number by its mark, and everything else by structure. -/
def same : Value → Value → Bool
  | .null, .null => true
  | .bool a, .bool b => a == b
  | .bool a, .int n => n == (if a then 1 else 0)
  | .int n, .bool a => n == (if a then 1 else 0)
  | .int a, .int b => a == b
  | .float x, .float y => x == y
  | .nan a, .nan b => a == b
  | .float x, .int n => wholeOf? x == some n
  | .int n, .float x => wholeOf? x == some n
  | .float x, .bool a => wholeOf? x == some (if a then 1 else 0)
  | .bool a, .float x => wholeOf? x == some (if a then 1 else 0)
  | .text a, .text b => a == b
  | .bytes a, .bytes b => a == b
  | .date a, .date b => a == b
  | .moment a, .moment b => sameMoment a b
  | .pair a b, .pair c d => same a c && same b d
  | .list a, .list b => sameItems a b
  | .set a, .set b => sameItems a b
  | .map a, .map b => sameEntries a b
  | _, _ => false

/-- Whether two lists have the same values in the same order. -/
def sameItems : List Value → List Value → Bool
  | [], [] => true
  | a :: as, b :: bs => same a b && sameItems as bs
  | _, _ => false

/-- Whether two mappings have the same entries in the same order. -/
def sameEntries : List (Value × Value) → List (Value × Value) → Bool
  | [], [] => true
  | (k, a) :: as, (l, b) :: bs => same k l && same a b && sameEntries as bs
  | _, _ => false

end

instance : BEq Value := ⟨same⟩

/-- Whether the value may be a mapping key: lists, mappings and sets may not. -/
def isKey : Value → Bool
  | .list _ | .map _ | .set _ | .unknown _ | .cyclic .. => false
  | .pair a b => a.isKey && b.isKey
  | _ => true

/-- The text of a value that is one. -/
def text? : Value → Option String
  | .text s => some s
  | _ => none

/-- A text, or null when there is none. -/
def ofText? (s : Option String) : Value :=
  match s with
  | some s => .text s
  | none => .null

/-- An integer, or null when there is none. -/
def ofInt? (n : Option Int) : Value :=
  match n with
  | some n => .int n
  | none => .null

/-- The word for a value's kind that messages use. -/
def typeName (v : Value) : String :=
  match v.opened with
  | .null => "NoneType"
  | .bool _ => "bool"
  | .int _ => "int"
  | .float _ | .nan _ => "float"
  | .text _ => "str"
  | .list _ | .unknown _ | .cyclic .. => "list"
  | .pair .. => "tuple"
  | .map _ => "dict"
  | .set _ => "set"
  | .bytes _ => "bytes"
  | .date _ => "date"
  | .moment _ => "datetime"

end Value

/-! ### Mappings that keep the order of insertion -/

section Entries

variable {α β : Type} [BEq α]

/-- Put a value under a key: in its old place when the key is there, at the end otherwise. -/
def putEntry (k : α) (v : β) : List (α × β) → List (α × β)
  | [] => [(k, v)]
  | (l, w) :: rest => if l == k then (l, v) :: rest else (l, w) :: putEntry k v rest

/-- The mapping of a list of entries. Of equal keys the first gives the place, the last the
value. -/
def ofEntries (entries : List (α × β)) : List (α × β) :=
  entries.foldl (fun m e => putEntry e.1 e.2 m) []

end Entries

end RequestAuth
