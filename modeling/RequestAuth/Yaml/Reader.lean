import RequestAuth.Value.Equations
import RequestAuth.Value.Places
import RequestAuth.Yaml.Node
import RequestAuth.Yaml.Scalar

/-!
# From nodes to values

The value that a node stands for under its tag, and `Yaml.read` from the bytes of a file to its
value. A mapping takes up the entries of the mappings under its merge keys, in front of its own.

The values of scalars are made where they are met. Collections are filled later, in the order in
which they are met, and each gives an equation: so of several faults the one in the outermost
collection counts, and a collection may contain itself.
-/

namespace RequestAuth.Yaml

/-- Whether a tag is one of a collection. -/
def Tag.isCollection : Tag → Bool
  | .orderedMap | .pairs | .set | .sequence | .mapping => true
  | _ => false

/-- The tag of the node of a number. -/
def Graph.tagOf (nodes : Graph) (n : Nat) : Tag := ((nodes.get? n).getD .empty).tag

/-- The count of entries in all mappings. -/
def Graph.entryCount (nodes : Graph) : Nat :=
  nodes.foldl (fun count _ n =>
    match n.content with
    | .mapping entries => count + entries.length
    | _ => count) 0

/-- The state of making values. -/
structure Making where
  /-- The nodes, with what merging has changed. -/
  nodes : Graph
  /-- The count of entries in the mappings before any merging. -/
  entryCount : Nat
  /-- The values of the nodes that were met; collections are unknowns. -/
  values : Std.TreeMap Nat Value
  /-- The collections that are still to be filled, last first. -/
  waiting : List Nat
  /-- The contents of the collections that are filled. -/
  contents : Std.TreeMap Nat Value

/-- Steps of making values. -/
abbrev Make := StateT Making (Except Fault)

namespace Make

/-- The node of a number. -/
def node (n : Nat) : Make Node := do return ((← get).nodes.get? n).getD .empty

/-- The entries of a node, none when it is no mapping. -/
def entriesOf (n : Nat) : Make (List (Nat × Nat)) := do
  match (← node n).content with
  | .mapping entries => return entries
  | _ => return []

/-- Change the entries of a mapping. -/
def setEntries (n : Nat) (entries : List (Nat × Nat)) : Make Unit := do
  let tag := (← node n).tag
  modify fun m => { m with nodes := m.nodes.insert n ⟨tag, .mapping entries⟩ }

/-- Let a key that marks the value of a whole mapping be a text. -/
def plainKey (e : Nat × Nat) : Make Unit := do
  let n ← node e.1
  if n.tag = .value then
    modify fun m => { m with nodes := m.nodes.insert e.1 { n with tag := .text } }

/-- The most mappings merged into one another, with a call for each. -/
def maxMerged : Nat := Interpreter.maxCalls - 13

mutual

/-- Put the entries under the merge keys of a mapping in front of its own. The first `place` entries
have been looked at, and `merged` is what their merge keys gave. A merge key is taken out before its
value is looked at, so a mapping may be merged into itself; `room` mappings may be merged into this
one by way of each other. -/
def flatten (n place : Nat) (merged : List (Nat × Nat)) (room : Nat) : (fuel : Nat) → Make Unit
  | 0 => throw .yamlMalformed
  | fuel + 1 => do
    let entries ← entriesOf n
    let nodes := (← get).nodes
    let before := (entries.drop place).takeWhile fun e => nodes.tagOf e.1 != .merge
    before.forM plainKey
    let place := place + before.length
    match entries[place]? with
    | none => if !merged.isEmpty then setEntries n (merged ++ entries)
    | some (_, v) =>
      setEntries n (entries.eraseIdx place)
      let more ← mergedFrom v room fuel
      flatten n place (merged ++ more) room fuel
termination_by structural fuel => fuel

/-- The entries that a node under a merge key gives: those of a mapping, or those of a list of
mappings from the last to the first. -/
def mergedFrom (n room : Nat) : (fuel : Nat) → Make (List (Nat × Nat))
  | 0 => throw .yamlMalformed
  | fuel + 1 => do
    match (← node n).content with
    | .mapping _ => flattened n room fuel
    | .sequence items =>
      let lists ← items.mapM fun m => do
        match (← node m).content with
        | .mapping _ => flattened m room fuel
        | _ => throw .yamlMalformed
      return lists.reverse.flatten
    | .scalar _ => throw .yamlMalformed
termination_by structural fuel => fuel

/-- The entries of a mapping behind those under its merge keys. -/
def flattened (n room : Nat) : (fuel : Nat) → Make (List (Nat × Nat))
  | 0 => throw .yamlMalformed
  | fuel + 1 => do
    if room = 0 then throw (.tooDeep "")
    flatten n 0 [] (room - 1) fuel
    entriesOf n
termination_by structural fuel => fuel

end

/-- The most mappings whose values stand for one another, with a call for each. -/
def maxStandIns : Nat := Interpreter.maxCalls - 13

/-- The text of a node under a tag for scalars: a scalar's own text, or that of the first value that
stands for its whole mapping. A mapping that stands for itself has no end. -/
def text (n : Nat) : (room : Nat) → Make String
  | 0 => throw (.tooDeep "")
  | room + 1 => do
    match (← node n).content with
    | .scalar s => return s
    | .sequence _ => throw .yamlMalformed
    | .mapping entries =>
      let nodes := (← get).nodes
      match entries.find? fun e => nodes.tagOf e.1 == .value with
      | some (_, v) => text v room
      | none => throw .yamlMalformed

/-- The value of a node with a tag for scalars. Only a scalar itself can be a timestamp. -/
def scalar (n : Nat) (node : Node) : Make Value := do
  let s ← text n maxStandIns
  match node.tag, node.content with
  | .timestamp, .mapping _ => throw .typeMismatch
  | tag, _ => scalarValue (n + 1) tag s

/-- The value of a node. A collection is an unknown, to be filled later. -/
def value (n : Nat) : Make Value := do
  match (← get).values.get? n with
  | some v => return v
  | none =>
    let node ← node n
    if node.tag.isCollection then
      let v := Value.unknown n
      modify fun m => { m with values := m.values.insert n v, waiting := n :: m.waiting }
      return v
    else
      let v ← scalar n node
      modify fun m => { m with values := m.values.insert n v }
      return v

/-- The entries of a mapping, whose keys must not be collections. -/
def entries (n : Nat) : Make (List (Value × Value)) := do
  let pairs ← flattened n maxMerged (3 * (← get).entryCount + 4)
  let made ← pairs.mapM fun e => do
    let k ← value e.1
    if !k.isKey then throw .yamlMalformed
    return (k, ← value e.2)
  return ofEntries made

/-- The pair that a mapping with one entry stands for. -/
def pair (n : Nat) : Make Value := do
  match (← node n).content with
  | .mapping [(k, v)] => return .pair (← value k) (← value v)
  | _ => throw .yamlMalformed

/-- The content of a collection. -/
def content (n : Nat) : Make Value := do
  let node ← node n
  match node.tag, node.content with
  | .sequence, .sequence items => return .list (← items.mapM value)
  | .orderedMap, .sequence items | .pairs, .sequence items => return .list (← items.mapM pair)
  | .mapping, .mapping _ => return .map (← entries n)
  | .set, .mapping _ => return .set (Value.inPlaces ((← entries n).map Prod.fst))
  | _, _ => throw .yamlMalformed

/-- Fill a collection. -/
def fill (n : Nat) : Make Unit := do
  let v ← content n
  modify fun m => { m with contents := m.contents.insert n v }

/-- Fill the collections that wait, and those that are met in them. -/
def fillAll : (fuel : Nat) → Make Unit
  | 0 => return
  | fuel + 1 => do
    let waiting := (← get).waiting
    if waiting.isEmpty then return
    modify fun m => { m with waiting := [] }
    waiting.reverse.forM fill
    fillAll fuel

/-- The value of a root, before its equations are solved. -/
def root (n : Nat) : Make Value := do
  let v ← value n
  fillAll ((← get).nodes.size + 1)
  return v

end Make

/-- The value that a node of a graph stands for. -/
def valueOf (nodes : Graph) (root : Nat) : Except Fault Value := do
  let (v, m) ← (Make.root root).run ⟨nodes, nodes.entryCount, ∅, [], ∅⟩
  return v.solve m.contents

/-- The value of a file with some bytes, null when there is no document in it. -/
def read (bytes : List UInt8) : Except Fault Value := do
  match ← Node.ofSource (.ofBytes bytes) with
  | (none, _) => return .null
  | (some n, nodes) => valueOf nodes n

end RequestAuth.Yaml
