import RequestAuth.Fault
import Mathlib.Data.List.Forall2

/-!
# Results

A computation with a second one behind it succeeds when both do, and ends in the fault of the first
one that does not. One over a list succeeds when it does for each item.
-/

namespace RequestAuth

theorem bind_eq_ok {ε α β : Type} {x : Except ε α} {f : α → Except ε β} {b : β} :
    x >>= f = .ok b ↔ ∃ a, x = .ok a ∧ f a = .ok b := by
  cases x with
  | error e => exact ⟨nofun, fun ⟨_, h, _⟩ => nomatch h⟩
  | ok a => exact ⟨fun h => ⟨a, rfl, h⟩, fun ⟨_, ha, h⟩ => by cases ha; exact h⟩

theorem bind_eq_error {ε α β : Type} {x : Except ε α} {f : α → Except ε β} {e : ε} :
    x >>= f = .error e ↔ x = .error e ∨ ∃ a, x = .ok a ∧ f a = .error e := by
  cases x with
  | error e' =>
    have h : (.error e' >>= f : Except ε β) = .error e' := rfl
    simp [h]
  | ok a =>
    constructor
    · intro h
      exact .inr ⟨a, rfl, h⟩
    · rintro (h | ⟨b, hb, h⟩)
      · cases h
      · cases hb
        exact h

variable {ε α β : Type} {f : α → Except ε β}

/-- A computation over a list gives what it gives for each item, in order. -/
theorem mapM_eq_ok {l : List α} {bs : List β} :
    l.mapM f = .ok bs ↔ List.Forall₂ (fun a b => f a = .ok b) l bs := by
  induction l generalizing bs with
  | nil =>
    rw [List.mapM_nil, List.forall₂_nil_left_iff]
    exact ⟨fun h => (Except.ok.inj h).symm, fun h => congrArg _ h.symm⟩
  | cons a l ih =>
    rw [List.mapM_cons, bind_eq_ok, List.forall₂_cons_left_iff]
    constructor
    · rintro ⟨b, hb, h⟩
      obtain ⟨bs, hbs, h⟩ := bind_eq_ok.mp h
      cases h
      exact ⟨b, bs, hb, ih.mp hbs, rfl⟩
    · rintro ⟨b, bs, hb, hbs, rfl⟩
      exact ⟨b, hb, bind_eq_ok.mpr ⟨bs, ih.mpr hbs, rfl⟩⟩

theorem exists_mem_of_mapM {l : List α} {bs : List β} (h : l.mapM f = .ok bs) {a : α}
    (ha : a ∈ l) : ∃ b ∈ bs, f a = .ok b := by
  induction l generalizing bs with
  | nil => cases ha
  | cons x l ih =>
    rw [List.mapM_cons] at h
    obtain ⟨y, hy, h⟩ := bind_eq_ok.mp h
    obtain ⟨ys, hys, h⟩ := bind_eq_ok.mp h
    cases h
    rcases List.mem_cons.mp ha with rfl | ha
    · exact ⟨y, .head _, hy⟩
    · obtain ⟨b, hb, hf⟩ := ih hys ha
      exact ⟨b, .tail _ hb, hf⟩

theorem mem_of_mapM {l : List α} {bs : List β} (h : l.mapM f = .ok bs) {b : β} :
    b ∈ bs ↔ ∃ a ∈ l, f a = .ok b := by
  constructor
  · intro hb
    induction l generalizing bs with
    | nil =>
      cases h
      cases hb
    | cons x l ih =>
      rw [List.mapM_cons] at h
      obtain ⟨y, hy, h⟩ := bind_eq_ok.mp h
      obtain ⟨ys, hys, h⟩ := bind_eq_ok.mp h
      cases h
      rcases List.mem_cons.mp hb with rfl | hb
      · exact ⟨x, .head _, hy⟩
      · obtain ⟨a, ha, hf⟩ := ih hys hb
        exact ⟨a, .tail _ ha, hf⟩
  · rintro ⟨a, ha, hf⟩
    obtain ⟨b', hb, hf'⟩ := exists_mem_of_mapM h ha
    rw [hf] at hf'
    cases hf'
    exact hb

/-- A computation over a list ends in the fault of the first item that has one. -/
theorem mapM_eq_error {l : List α} {e : ε} :
    l.mapM f = .error e ↔ ∃ front a back, l = front ++ a :: back ∧
      (∀ x ∈ front, ∃ b, f x = .ok b) ∧ f a = .error e := by
  induction l with
  | nil =>
    refine ⟨nofun, ?_⟩
    rintro ⟨front, a, back, h, -⟩
    exact absurd h (by simp)
  | cons x l ih =>
    rw [List.mapM_cons, bind_eq_error]
    constructor
    · rintro (hx | ⟨b, hx, h⟩)
      · exact ⟨[], x, l, rfl, nofun, hx⟩
      · rcases bind_eq_error.mp h with hl | ⟨_, _, h⟩
        · obtain ⟨front, a, back, rfl, hfront, ha⟩ := ih.mp hl
          exact ⟨x :: front, a, back, rfl, List.forall_mem_cons.mpr ⟨⟨b, hx⟩, hfront⟩, ha⟩
        · cases h
    · rintro ⟨front, a, back, h, hfront, ha⟩
      rcases List.cons_eq_append_iff.mp h with ⟨rfl, h⟩ | ⟨front, rfl, rfl⟩
      · cases h
        exact .inl ha
      · obtain ⟨⟨b, hx⟩, hfront⟩ := List.forall_mem_cons.mp hfront
        exact .inr ⟨b, hx, bind_eq_error.mpr (.inl (ih.mpr ⟨front, a, back, rfl, hfront, ha⟩))⟩

variable {g : α → Except ε Unit}

theorem forM_cons (a : α) (l : List α) : (a :: l).forM g = g a >>= fun _ => l.forM g := rfl

theorem forM_eq_ok {l : List α} : l.forM g = .ok () ↔ ∀ a ∈ l, g a = .ok () := by
  induction l with
  | nil => exact ⟨fun _ => nofun, fun _ => rfl⟩
  | cons a l ih =>
    rw [forM_cons, bind_eq_ok, List.forall_mem_cons, ih]
    exact ⟨fun ⟨_, ha, hl⟩ => ⟨ha, hl⟩, fun ⟨ha, hl⟩ => ⟨(), ha, hl⟩⟩

theorem exists_mem_of_forM {l : List α} {e : ε} (h : l.forM g = .error e) :
    ∃ a ∈ l, g a = .error e := by
  induction l with
  | nil => cases h
  | cons a l ih =>
    rw [forM_cons] at h
    rcases bind_eq_error.mp h with ha | ⟨_, _, hl⟩
    · exact ⟨a, .head _, ha⟩
    · obtain ⟨b, hb, hg⟩ := ih hl
      exact ⟨b, .tail _ hb, hg⟩

end RequestAuth
