import RequestAuth.Json.Reader
import RequestAuth.Proofs.Entries
import RequestAuth.Proofs.Written
import Mathlib.Data.List.TakeDrop
import Mathlib.Data.List.TakeWhile
import Mathlib.Data.Nat.Digits.Defs

/-!
# What is read from JSON can be written

A value in JSON has no integer with more digits than are written and is not nested deeper than
values may be that are written (`Json.isWritable_of_read`). That is why the parts of an answer are
put into a header and into the wording of a fault without a check (`bearerHeader`,
`Refusal.message`).

The induction is over the fuel of the reader and goes through values, elements and members at once.
What it carries is that a value which is read inside `depth` collections can be written where as
many values may stand inside one another as collections may be further inside, and one more.
-/

namespace RequestAuth

namespace Value

variable {unknown : Nat → Nat → Option WriteFault}
  {cyclic : Nat → List (Nat × Value) → Nat → Option WriteFault} {room : Nat}

theorem entriesFault?_eq_none {entries : List (Value × Value)} :
    entriesFault? unknown cyclic room entries = none ↔ ∀ e ∈ entries,
      writeFaultWith? unknown cyclic room e.1 = none ∧
        writeFaultWith? unknown cyclic room e.2 = none := by
  induction entries with
  | nil => exact ⟨fun _ => List.forall_mem_nil _, fun _ => rfl⟩
  | cons e entries ih =>
    obtain ⟨k, v⟩ := e
    rw [entriesFault?, List.forall_mem_cons, ← ih, Option.orElse_eq_none, Option.orElse_eq_none,
      and_assoc]

end Value

namespace Json

variable {unknown : Nat → Nat → Option WriteFault}
  {cyclic : Nat → List (Nat × Value) → Nat → Option WriteFault} {room : Nat}
  {s rest digits : List Char} {v : Value}

/-! ### Numbers -/

/-- A number is below the power of ten of its digits. -/
theorem natOf_lt (h : ∀ c ∈ digits, isDigit c = true) : natOf digits < 10 ^ digits.length := by
  induction digits using List.reverseRecOn with
  | nil => exact Nat.one_pos
  | append_singleton digits c ih =>
    obtain ⟨hdigits, hc⟩ := List.forall_mem_append.mp h
    have hvalue : natOf (digits ++ [c]) = 10 * natOf digits + (c.toNat - 48) := List.foldl_append
    have hlast : c.toNat ≤ 57 := by
      have hc := hc c (.head _)
      simp only [isDigit, Bool.and_eq_true, decide_eq_true_eq, Char.le_def,
        UInt32.le_iff_toNat_le] at hc
      exact hc.2
    have hlt := ih hdigits
    rw [hvalue, List.length_append, List.length_singleton, Nat.pow_succ]
    omega

theorem isDigit_of_integerPart? (h : integerPart? s = some (digits, rest)) :
    ∀ c ∈ digits, isDigit c = true := by
  unfold integerPart? at h
  split at h
  · cases h
    simp [isDigit]
  · rw [List.span_eq_takeWhile_dropWhile] at h
    split at h
    · cases h
    · rename_i heq
      cases h
      obtain ⟨rfl, -⟩ := Prod.mk.inj heq
      exact fun c => List.mem_takeWhile_imp

theorem writeFault?_of_number {negative : Bool} (h : number negative s = .ok (v, rest))
    (hroom : 0 < room) : v.writeFaultWith? unknown cyclic room = none := by
  obtain ⟨room, rfl⟩ := Nat.exists_eq_add_one.mpr hroom
  unfold number at h
  split at h
  · cases h
  · rename_i whole after hwhole
    dsimp only at h
    split at h
    · split at h
      · cases h
      · rename_i hlength
        cases h
        have hle : whole.length ≤ Value.maxWrittenDigits := Nat.le_of_not_lt hlength
        have hlt := Nat.lt_of_lt_of_le (natOf_lt (isDigit_of_integerPart? hwhole))
          (Nat.pow_le_pow_right (by decide) hle)
        have habs (n : Nat) : (if negative then -(n : Int) else n).natAbs = n := by
          split <;> simp
        rw [Value.writeFaultWith?, habs, Nat.pow_eq, if_pos hlt]
    · cases h
      rfl

theorem writeFault?_of_scalar (h : scalar s = .ok (v, rest)) (hroom : 0 < room) :
    v.writeFaultWith? unknown cyclic room = none := by
  unfold scalar at h
  split at h
  · rename_i found hfound
    cases h
    obtain ⟨room, rfl⟩ := Nat.exists_eq_add_one.mpr hroom
    obtain ⟨⟨word, w⟩, hmem, hword⟩ := List.exists_of_findSome?_eq_some hfound
    obtain ⟨after, -, heq⟩ := Option.map_eq_some_iff.mp hword
    cases heq
    simp only [words, List.mem_cons, List.not_mem_nil, or_false, Prod.mk.injEq] at hmem
    rcases hmem with ⟨-, rfl⟩ | ⟨-, rfl⟩ | ⟨-, rfl⟩ | ⟨-, rfl⟩ | ⟨-, rfl⟩ | ⟨-, rfl⟩ <;> rfl
  · split at h
    · exact writeFault?_of_number h hroom
    · exact writeFault?_of_number h hroom

/-! ### Values -/

/-- What the reader gives with some fuel can be written, if there is room for what may be further
inside and for one more value. -/
structure GivesWritable (unknown : Nat → Nat → Option WriteFault)
    (cyclic : Nat → List (Nat × Value) → Nat → Option WriteFault) (fuel : Nat) : Prop where
  /-- A value. -/
  value : ∀ {depth room : Nat} {s rest : List Char} {v : Value}, depth ≤ maxDepth →
    maxDepth < depth + room → Json.value depth fuel s = .ok (v, rest) →
    v.writeFaultWith? unknown cyclic room = none
  /-- Elements, each of which is a value. -/
  elements : ∀ {depth room : Nat} {s rest : List Char} {items : List Value}, depth ≤ maxDepth →
    maxDepth < depth + room → Json.elements depth fuel s = .ok (items, rest) →
    Value.itemsFault? unknown cyclic room items = none
  /-- Members, each of which is a text and a value. -/
  members : ∀ {depth room : Nat} {s rest : List Char} {entries : List (Value × Value)},
    depth ≤ maxDepth → maxDepth < depth + room →
    Json.members depth fuel s = .ok (entries, rest) →
    Value.entriesFault? unknown cyclic room entries = none

variable {depth fuel : Nat}

theorem GivesWritable.value_succ (h : GivesWritable unknown cyclic fuel)
    (hroom : maxDepth < depth + (room + 1))
    (hvalue : Json.value depth (fuel + 1) s = .ok (v, rest)) :
    v.writeFaultWith? unknown cyclic (room + 1) = none := by
  unfold Json.value at hvalue
  split at hvalue
  · split at hvalue
    · cases hvalue
      rfl
    · cases hvalue
  · split at hvalue
    · cases hvalue
    · split at hvalue
      · cases hvalue
        rfl
      · obtain ⟨⟨items, after⟩, hitems, hvalue⟩ := bind_eq_ok.mp hvalue
        cases hvalue
        exact h.elements (by omega) (by omega) hitems
  · split at hvalue
    · cases hvalue
    · split at hvalue
      · cases hvalue
        rfl
      · obtain ⟨⟨entries, after⟩, hentries, hvalue⟩ := bind_eq_ok.mp hvalue
        cases hvalue
        have hnone : Value.entriesFault? unknown cyclic room entries = none :=
          h.members (by omega) (by omega) hentries
        exact Value.entriesFault?_eq_none.mpr (forall_mem_ofEntries
          (P := fun k => Value.writeFaultWith? unknown cyclic room k = none)
          (Q := fun w => Value.writeFaultWith? unknown cyclic room w = none)
          (Value.entriesFault?_eq_none.mp hnone))
  · exact writeFault?_of_scalar hvalue (Nat.succ_pos room)

theorem GivesWritable.elements_succ (h : GivesWritable unknown cyclic fuel)
    (hdepth : depth ≤ maxDepth) (hroom : maxDepth < depth + room) {items : List Value}
    (helements : Json.elements depth (fuel + 1) s = .ok (items, rest)) :
    Value.itemsFault? unknown cyclic room items = none := by
  unfold Json.elements at helements
  obtain ⟨⟨w, after⟩, hfirst, helements⟩ := bind_eq_ok.mp helements
  have hw := h.value hdepth hroom hfirst
  dsimp only at helements
  split at helements
  · cases helements
    simp [Value.itemsFault?, hw]
  · obtain ⟨⟨ws, after⟩, hrest, helements⟩ := bind_eq_ok.mp helements
    cases helements
    have hws := h.elements hdepth hroom hrest
    simp [Value.itemsFault?, hw, hws]
  · cases helements

theorem GivesWritable.members_succ (h : GivesWritable unknown cyclic fuel)
    (hdepth : depth ≤ maxDepth) (hroom : maxDepth < depth + room) {entries : List (Value × Value)}
    (hmembers : Json.members depth (fuel + 1) s = .ok (entries, rest)) :
    Value.entriesFault? unknown cyclic room entries = none := by
  have htext (key : String) : (Value.text key).writeFaultWith? unknown cyclic room = none := by
    obtain ⟨n, rfl⟩ : ∃ n, room = n + 1 := Nat.exists_eq_add_one.mpr (by omega)
    rfl
  unfold Json.members at hmembers
  split at hmembers
  · cases hmembers
  · rename_i hfuel
    cases hfuel
    split at hmembers
    · cases hmembers
    · split at hmembers
      · obtain ⟨⟨w, after⟩, hfirst, hmembers⟩ := bind_eq_ok.mp hmembers
        have hw := h.value hdepth hroom hfirst
        dsimp only at hmembers
        split at hmembers
        · cases hmembers
          simp [Value.entriesFault?, htext, hw]
        · obtain ⟨⟨ws, after⟩, hrest, hmembers⟩ := bind_eq_ok.mp hmembers
          cases hmembers
          have hws := h.members hdepth hroom hrest
          simp [Value.entriesFault?, htext, hw, hws]
        · cases hmembers
      · cases hmembers
  · cases hmembers

theorem givesWritable (fuel : Nat) : GivesWritable unknown cyclic fuel := by
  induction fuel with
  | zero =>
    constructor
    · intro _ _ _ _ _ _ _ h
      rw [Json.value] at h
      cases h
    · intro _ _ _ _ _ _ _ h
      rw [Json.elements] at h
      cases h
    · intro _ _ _ _ _ _ _ h
      rw [Json.members] at h
      cases h
  | succ fuel ih =>
    constructor
    · intro depth room s rest v hdepth hroom h
      obtain ⟨n, rfl⟩ : ∃ n, room = n + 1 := Nat.exists_eq_add_one.mpr (by omega)
      exact ih.value_succ hroom h
    · exact fun hdepth hroom h => ih.elements_succ hdepth hroom h
    · exact fun hdepth hroom h => ih.members_succ hdepth hroom h

/-- What is read from JSON can be written. -/
theorem isWritable_of_read {s : String} (h : read s = .ok v) : v.isWritable = true := by
  unfold read at h
  obtain ⟨⟨w, rest⟩, hvalue, h⟩ := bind_eq_ok.mp h
  dsimp only at h
  split at h
  · cases h
    have hroom : maxDepth < 0 + Value.maxWrittenDepth := by decide
    exact Value.isWritable_iff.mpr ((givesWritable _).value (Nat.zero_le _) hroom hvalue)
  · cases h

end Json

end RequestAuth
