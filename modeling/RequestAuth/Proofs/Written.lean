import RequestAuth.Value.Access
import RequestAuth.Proofs.Results

/-!
# Writing values

A value that is put into a text is written. This fails with the fault of what is first in the way
(`Value.writeFault?`), and for no other reason. Values that are written one behind the other fail
with that of the first one that cannot be written (`Value.firstFault?`), and with nothing in the way
they are all written.
-/

namespace RequestAuth

/-! ### What is in the way -/

section Unless

variable {α β : Type} {cause? : Option WriteFault} {a : α} {fault : Fault}

/-- A result, unless something is in the way of writing. -/
def unlessFault (cause? : Option WriteFault) (a : α) : Except Fault α :=
  match cause? with
  | none => .ok a
  | some cause => .error (.ofWriting cause)

theorem unlessFault_eq_ok {b : α} : unlessFault cause? a = .ok b ↔ cause? = none ∧ a = b := by
  cases cause? with
  | none => exact ⟨fun h => ⟨rfl, Except.ok.inj h⟩, fun h => congrArg Except.ok h.2⟩
  | some cause => exact ⟨nofun, fun h => nomatch h.1⟩

theorem unlessFault_eq_error :
    unlessFault cause? a = .error fault ↔
      ∃ cause, cause? = some cause ∧ fault = .ofWriting cause := by
  cases cause? with
  | none => exact ⟨nofun, fun ⟨_, h, _⟩ => nomatch h⟩
  | some cause =>
    constructor
    · exact fun h => ⟨cause, rfl, (Except.error.inj h).symm⟩
    · rintro ⟨_, hcause, rfl⟩
      cases hcause
      rfl

/-- Of two computations one behind the other, the first one to have something in its way fails. -/
theorem unlessFault_bind (cause? other? : Option WriteFault) (a : α) (f : α → β) :
    (unlessFault cause? a >>= fun a => unlessFault other? (f a)) =
      unlessFault (cause?.or other?) (f a) := by
  cases cause? with
  | none => rfl
  | some cause => rfl

end Unless

namespace Value

variable {v : Value} {fault : Fault} {w : String}

theorem isWritable_iff : v.isWritable = true ↔ v.writeFault? = none := Option.isNone_iff_eq_none

theorem checkWritable_eq (v : Value) : v.checkWritable = unlessFault v.writeFault? () := rfl

theorem written_eq (v : Value) : v.written = unlessFault v.writeFault? v.toText := by
  unfold written
  rw [checkWritable_eq]
  cases v.writeFault? <;> rfl

theorem checkWritable_eq_ok : v.checkWritable = .ok () ↔ v.isWritable = true := by
  rw [checkWritable_eq, unlessFault_eq_ok, isWritable_iff, and_iff_left rfl]

theorem written_text (s : String) : (text s).written = .ok s := rfl

theorem written_eq_ok : v.written = .ok w ↔ v.isWritable = true ∧ w = v.toText := by
  rw [written_eq, unlessFault_eq_ok, isWritable_iff, eq_comm (a := w)]

theorem written_eq_error : v.written = .error fault ↔
    ∃ cause, v.writeFault? = some cause ∧ fault = .ofWriting cause := by
  rw [written_eq, unlessFault_eq_error]

/-! ### Nested values -/

/-- A value inside as many lists. -/
def nested : Nat → Value → Value
  | 0, v => v
  | n + 1, v => .list [nested n v]

theorem writeFaultWith?_nested {unknown : Nat → Nat → Option WriteFault}
    {cyclic : Nat → List (Nat × Value) → Nat → Option WriteFault} {room n : Nat} (h : room ≤ n)
    (v : Value) : writeFaultWith? unknown cyclic room (nested n v) = some .tooDeep := by
  induction n generalizing room with
  | zero =>
    obtain rfl := Nat.le_zero.mp h
    exact writeFaultWith?.eq_1 ..
  | succ n ih =>
    cases room with
    | zero => exact writeFaultWith?.eq_1 ..
    | succ room =>
      rw [nested, writeFaultWith?, itemsFault?, ih (Nat.le_of_succ_le_succ h)]
      rfl

/-- What stands inside too many lists cannot be written, whatever it is. -/
theorem writeFault?_nested {n : Nat} (h : maxWrittenDepth ≤ n) (v : Value) :
    (nested n v).writeFault? = some .tooDeep := writeFaultWith?_nested h v

/-! ### Several values -/

/-- What is first in the way of writing values one behind the other, if anything is. -/
def firstFault? (vs : List Value) : Option WriteFault := vs.findSome? writeFault?

theorem firstFault?_cons (v : Value) (vs : List Value) :
    firstFault? (v :: vs) = v.writeFault?.or (firstFault? vs) := by
  unfold firstFault?
  rw [List.findSome?_cons]
  cases v.writeFault? <;> rfl

theorem firstFault?_eq_none {vs : List Value} :
    firstFault? vs = none ↔ ∀ v ∈ vs, v.isWritable = true := by
  unfold firstFault?
  simp only [List.findSome?_eq_none_iff, isWritable_iff]

theorem firstFault?_singleton (v : Value) : firstFault? [v] = v.writeFault? := by
  rw [firstFault?_cons]
  exact Option.or_none

/-- Where only one thing is in the way, it does not matter of which value. -/
theorem firstFault?_eq_some {vs : List Value} {cause : WriteFault}
    (hmem : ∃ v ∈ vs, v.writeFault? = some cause)
    (h : ∀ v ∈ vs, v.writeFault? = none ∨ v.writeFault? = some cause) :
    firstFault? vs = some cause := by
  induction vs with
  | nil => simp at hmem
  | cons v vs ih =>
    obtain ⟨hv, hvs⟩ := List.forall_mem_cons.mp h
    rw [firstFault?_cons]
    rcases hv with hv | hv
    · rw [hv, Option.none_or]
      refine ih ?_ hvs
      simpa [hv] using hmem
    · rw [hv, Option.some_or]

theorem firstFault?_append (vs ws : List Value) :
    firstFault? (vs ++ ws) = (firstFault? vs).or (firstFault? ws) := List.findSome?_append

/-- Values are checked up to the first one that cannot be written. -/
theorem forM_checkWritable {α : Type} (f : α → Value) (l : List α) :
    (l.forM fun a => (f a).checkWritable) = unlessFault (firstFault? (l.map f)) () := by
  induction l with
  | nil => rfl
  | cons a l ih =>
    rw [forM_cons, ih, checkWritable_eq, unlessFault_bind, List.map_cons, firstFault?_cons]

/-! ### Entries -/

/-- An entry with its key and its value written. -/
def writtenEntry (e : Value × Value) : Except Fault (String × String) := do
  return (← e.1.written, ← e.2.written)

/-- The keys and values of entries, each key in front of its value. -/
def parts (entries : List (Value × Value)) : List Value := entries.flatMap fun e => [e.1, e.2]

theorem writtenEntry_eq (e : Value × Value) :
    writtenEntry e = unlessFault (e.1.writeFault?.or e.2.writeFault?) (e.1.toText, e.2.toText) := by
  unfold writtenEntry
  rw [written_eq, written_eq]
  cases e.1.writeFault? with
  | none => cases e.2.writeFault? <;> rfl
  | some cause => rfl

/-- Entries are written up to the first key or value that cannot be. -/
theorem mapM_writtenEntry (entries : List (Value × Value)) :
    entries.mapM writtenEntry =
      unlessFault (firstFault? (parts entries))
        (entries.map fun e => (e.1.toText, e.2.toText)) := by
  induction entries with
  | nil => rfl
  | cons e entries ih =>
    have hparts : firstFault? (parts (e :: entries)) =
        (e.1.writeFault?.or e.2.writeFault?).or (firstFault? (parts entries)) := by
      rw [Option.or_assoc, ← firstFault?_cons, ← firstFault?_cons]
      rfl
    rw [List.mapM_cons, ih, writtenEntry_eq, hparts, List.map_cons]
    cases e.1.writeFault?.or e.2.writeFault? with
    | none => cases firstFault? (parts entries) <;> rfl
    | some cause => rfl

end Value

end RequestAuth
