import Std.Data.TreeMap
import RequestAuth.Value

/-!
# Solving equations

Collections may be given by equations, one for each, that name other collections by unknowns.
`Value.solve` gives the value of one of them. Collections that cannot contain themselves become
plain values, each made once however often it is named; only the others keep their equations.
-/

namespace RequestAuth.Value

/-- The unknowns of an item. -/
def unknownsOf : Value → List Nat
  | .unknown n => [n]
  | .pair a b => unknownsOf a ++ unknownsOf b
  | _ => []

/-- The unknowns in the content of a collection. -/
def unknowns : Value → List Nat
  | .list items => items.flatMap unknownsOf
  | .map entries => entries.flatMap fun e => unknownsOf e.2
  | _ => []

/-- An item with values for its unknowns. -/
def replaceIn (value : Nat → Value) : Value → Value
  | .unknown n => value n
  | .pair a b => .pair (replaceIn value a) (replaceIn value b)
  | v => v

/-- The content of a collection with values for its unknowns. -/
def replace (value : Nat → Value) : Value → Value
  | .list items => .list (items.map (replaceIn value))
  | .map entries => .map (entries.map fun e => (e.1, replaceIn value e.2))
  | v => v

/-- What is known about an unknown. -/
inductive Solution where
  /-- Its value is being looked for. -/
  | begun
  /-- It has a plain value. -/
  | plain (v : Value)
  /-- It contains itself, or something that does. -/
  | cyclic

/-- What is known about the unknowns. -/
abbrev Solutions := Std.TreeMap Nat Solution

/-- The plain value of an unknown that has one; the unknown itself otherwise. -/
def Solutions.valueOf (known : Solutions) (n : Nat) : Value :=
  match known.get? n with
  | some (.plain v) => v
  | _ => .unknown n

/-- Whether an unknown has a plain value. -/
def Solutions.isPlain (known : Solutions) (n : Nat) : Bool :=
  match known.get? n with
  | some (.plain _) => true
  | _ => false

/-- Solve the equations that an unknown needs. One that is met again while it is looked for contains
itself. -/
def solveFor (equations : Std.TreeMap Nat Value) : (fuel : Nat) → Nat → Solutions → Solutions
  | 0, _, known => known
  | fuel + 1, n, known =>
    if known.contains n then known
    else
      let content := (equations.get? n).getD .null
      let inner := content.unknowns
      let known := inner.foldl (fun known m => solveFor equations fuel m known)
        (known.insert n .begun)
      if inner.all known.isPlain then known.insert n (.plain (content.replace known.valueOf))
      else known.insert n .cyclic

/-- The equations that are left, with plain values for the unknowns that have them. -/
def leftOver (equations : Std.TreeMap Nat Value) (known : Solutions) : List (Nat × Value) :=
  equations.toList.filterMap fun (n, content) =>
    match known.get? n with
    | some .cyclic => some (n, content.replace known.valueOf)
    | _ => none

/-- The value of an item whose unknowns are given by equations. -/
def solve (equations : Std.TreeMap Nat Value) (item : Value) : Value :=
  let known := item.unknownsOf.foldl
    (fun known n => solveFor equations (equations.size + 1) n known) (∅ : Solutions)
  (item.replaceIn known.valueOf).tied (leftOver equations known)

end RequestAuth.Value
