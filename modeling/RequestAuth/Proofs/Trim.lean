import RequestAuth.Text.Digit
import Mathlib.Data.List.DropRight

/-!
# Trimming

Configured texts and numerals are trimmed, each of its own kind of blanks. What is left neither
begins nor ends with a blank (`IsBare`), and it stands between the blanks that are cut off; both
together say what it is.
-/

namespace RequestAuth.Text

/-- The text without the characters of a kind at both ends. -/
def trimOf (p : Char → Bool) (s : List Char) : List Char := (s.dropWhile p).rdropWhile p

theorem trim_eq_trimOf (s : List Char) : trim s = trimOf isBlank s := rfl

theorem trimNumber_eq_trimOf (s : List Char) : trimNumber s = trimOf isNumberBlank s := rfl

/-- A text neither begins nor ends with a character of a kind. -/
structure IsBare (p : Char → Bool) (s : List Char) : Prop where
  head : ∀ c ∈ s.head?, p c = false
  last : ∀ c ∈ s.getLast?, p c = false

instance (p : Char → Bool) (s : List Char) : Decidable (IsBare p s) :=
  decidable_of_iff (s.head?.any p = false ∧ s.getLast?.any p = false)
    ⟨fun h => ⟨(Option.any_eq_false ..).mp h.1, (Option.any_eq_false ..).mp h.2⟩,
      fun h => ⟨(Option.any_eq_false ..).mpr h.head, (Option.any_eq_false ..).mpr h.last⟩⟩

variable {p : Char → Bool} {s core front back : List Char}

theorem isBare_of_forall (h : ∀ c ∈ s, p c = false) : IsBare p s where
  head c hc := h c (List.mem_of_mem_head? hc)
  last c hc := h c (List.mem_of_mem_getLast? hc)

theorem IsBare.dropWhile_eq (h : IsBare p core) : core.dropWhile p = core := by
  cases core with
  | nil => rfl
  | cons c core => exact List.dropWhile_cons_of_neg (by simp [h.head c rfl])

theorem IsBare.rdropWhile_eq (h : IsBare p core) : core.rdropWhile p = core := by
  rw [List.rdropWhile_eq_self_iff]
  intro hne
  simp [h.last _ (List.getLast?_eq_getLast_of_ne_nil hne)]

theorem IsBare.trimOf_eq (h : IsBare p core) : trimOf p core = core := by
  rw [trimOf, h.dropWhile_eq, h.rdropWhile_eq]

/-! ### What is left -/

theorem isBare_trimOf (p : Char → Bool) (s : List Char) : IsBare p (trimOf p s) where
  head c hc := by
    -- it begins like what is left when only the front is cut off
    obtain ⟨rest, hrest⟩ := List.rdropWhile_prefix p (s.dropWhile p)
    have hhead : (s.dropWhile p).head? = some c := by
      rw [← hrest, List.head?_append, ← trimOf, Option.mem_def.mp hc]
      rfl
    have hnot := List.head?_dropWhile_not p s
    rwa [hhead] at hnot
  last c hc := by
    obtain ⟨hne, rfl⟩ := List.mem_getLast?_eq_getLast hc
    exact Bool.eq_false_iff.mpr (List.rdropWhile_last_not p _ hne)

/-- Characters in front that are cut off make no difference. -/
theorem trimOf_append_left (h : ∀ c ∈ front, p c = true) (s : List Char) :
    trimOf p (front ++ s) = trimOf p s := by
  rw [trimOf, List.dropWhile_append_of_pos h, trimOf]

theorem rdropWhile_append_of_pos (h : ∀ c ∈ back, p c = true) (s : List Char) :
    (s ++ back).rdropWhile p = s.rdropWhile p := by
  unfold List.rdropWhile
  rw [List.reverse_append, List.dropWhile_append_of_pos (by simpa using h)]

/-- Characters behind that are cut off make no difference. -/
theorem trimOf_append_right (h : ∀ c ∈ back, p c = true) (s : List Char) :
    trimOf p (s ++ back) = trimOf p s := by
  unfold trimOf
  rw [List.dropWhile_append]
  split
  · rename_i hempty
    rw [List.isEmpty_iff.mp hempty, List.dropWhile_eq_nil_iff.mpr h]
  · exact rdropWhile_append_of_pos h _

theorem trimOf_append (hblanks : ∀ c ∈ front ++ back, p c = true) (hcore : IsBare p core) :
    trimOf p (front ++ core ++ back) = core := by
  obtain ⟨hfront, hback⟩ := List.forall_mem_append.mp hblanks
  rw [trimOf_append_right hback, trimOf_append_left hfront, hcore.trimOf_eq]

/-- What is cut off are characters of the kind. -/
theorem exists_cutOff (p : Char → Bool) (s : List Char) : ∃ front back,
    s = front ++ trimOf p s ++ back ∧ ∀ c ∈ front ++ back, p c = true := by
  refine ⟨s.takeWhile p, (s.dropWhile p).rtakeWhile p, ?_, ?_⟩
  · rw [trimOf, List.append_assoc, List.rdropWhile_append_rtakeWhile,
      List.takeWhile_append_dropWhile]
  · intro c hc
    rcases List.mem_append.mp hc with hc | hc
    · exact List.mem_takeWhile_imp hc
    · exact List.mem_rtakeWhile_imp hc

theorem mem_of_mem_trimOf {c : Char} (h : c ∈ trimOf p s) : c ∈ s := by
  obtain ⟨front, back, hs, -⟩ := exists_cutOff p s
  rw [hs]
  exact List.mem_append_left back (List.mem_append_right front h)

/-- Nothing is left just when all is cut off. -/
theorem trimOf_eq_nil : trimOf p s = [] ↔ ∀ c ∈ s, p c = true := by
  constructor
  · intro h
    obtain ⟨front, back, hs, hblanks⟩ := exists_cutOff p s
    rw [h, List.append_nil] at hs
    rw [hs]
    exact hblanks
  · intro h
    have hnil := trimOf_append_left h []
    rwa [List.append_nil] at hnil

/-! ### Around a character that stays -/

theorem dropWhile_append_cons {c : Char} (hc : p c = false) (front back : List Char) :
    (front ++ c :: back).dropWhile p = front.dropWhile p ++ c :: back := by
  rw [List.dropWhile_append]
  split
  · rename_i hempty
    rw [List.isEmpty_iff.mp hempty, List.nil_append]
    exact List.dropWhile_cons_of_neg (by simp [hc])
  · rfl

theorem rdropWhile_append_cons {c : Char} (hc : p c = false) (front back : List Char) :
    (front ++ c :: back).rdropWhile p = front ++ c :: back.rdropWhile p := by
  have hreverse : (front ++ c :: back).reverse = back.reverse ++ c :: front.reverse := by simp
  unfold List.rdropWhile
  rw [hreverse, dropWhile_append_cons hc]
  simp

/-- A character that is not cut off keeps what stands between it and the ends. -/
theorem trimOf_append_cons {c : Char} (hc : p c = false) (front back : List Char) :
    trimOf p (front ++ c :: back) = front.dropWhile p ++ c :: back.rdropWhile p := by
  rw [trimOf, dropWhile_append_cons hc, rdropWhile_append_cons hc]

theorem trimOf_dropWhile (p : Char → Bool) (s : List Char) :
    trimOf p (s.dropWhile p) = trimOf p s := by
  rw [trimOf, List.dropWhile_idempotent, trimOf]

theorem trimOf_rdropWhile (p : Char → Bool) (s : List Char) :
    trimOf p (s.rdropWhile p) = trimOf p s := by
  have hback : ∀ c ∈ s.rtakeWhile p, p c = true := fun c hc => List.mem_rtakeWhile_imp hc
  rw [← trimOf_append_right hback, List.rdropWhile_append_rtakeWhile]

end RequestAuth.Text
