import RequestAuth.Fault

/-!
# Looking into a value

Members, entries and items of a value whose kind is not known. Asking for a member or the entries of
anything but a mapping is a fault (`memberMissing`), and so is listing what has no items
(`typeMismatch`). The items of a mapping are its keys, those of a text its characters.
-/

namespace RequestAuth.Value

/-- The value under a key of a mapping. -/
def lookup? (entries : List (Value × Value)) (key : String) : Option Value :=
  List.lookup (.text key) entries

/-- The entries of a mapping. -/
def entries (v : Value) : Except Fault (List (Value × Value)) :=
  match v.opened with
  | .map entries => .ok entries
  | _ => .error .memberMissing

/-- The value under a key, if the key is there. -/
def member? (v : Value) (key : String) : Except Fault (Option Value) := do
  return lookup? (← v.entries) key

/-- The value under a key, null when the key is not there. -/
def member (v : Value) (key : String) : Except Fault Value := do
  return (← v.member? key).getD .null

/-- The value under a key, another value when the key is not there. -/
def memberOr (v : Value) (key : String) (default : Value) : Except Fault Value := do
  return (← v.member? key).getD default

/-- The items of a value that has some. -/
def items (v : Value) : Except Fault (List Value) :=
  match v.opened with
  | .list items | .set items => .ok items
  | .pair a b => .ok [a, b]
  | .map entries => .ok (entries.map Prod.fst)
  | .text s => .ok (s.toList.map fun c => .text (String.ofList [c]))
  | .bytes content => .ok (content.map fun b => .int b.toNat)
  | _ => .error .typeMismatch

/-- The value itself when it is true, another one otherwise. -/
def orElse (v default : Value) : Value := if v.isTrue then v else default

/-- Whether a value is a mapping. -/
def isMap (v : Value) : Bool :=
  match v.opened with
  | .map _ => true
  | _ => false

/-- An entry that stands for a key and a value: two items, the first of which may be a key. -/
def entryOf (v : Value) : Except Fault (Value × Value) :=
  match v.items with
  | .ok [k, w] => if k.isKey then .ok (k, w) else .error .typeMismatch
  | .ok _ => .error (.valueInvalid "an entry is not a key and a value")
  | .error _ => .error .typeMismatch

/-- The entries that a mapping has or that the items of another value stand for. -/
def toEntries (v : Value) : Except Fault (List (Value × Value)) :=
  match v.entries with
  | .ok entries => .ok entries
  | .error _ => do
    let entries ← (← v.items).mapM entryOf
    return ofEntries entries

/-- That a value can be written; otherwise the fault of what is first in the way. -/
def checkWritable (v : Value) : Except Fault Unit :=
  match v.writeFault? with
  | none => .ok ()
  | some cause => .error (.ofWriting cause)

/-- The form of a value that is put into a text, if it can be written. -/
def written (v : Value) : Except Fault String := do
  v.checkWritable
  return v.toText

end RequestAuth.Value
