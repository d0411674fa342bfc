import RequestAuth.Value
import Mathlib.Data.List.Induction

/-!
# Mappings that keep the order of insertion

What is found under a key after a value has been put under one, and in the mapping of a list of
entries, what holds of all the entries there, and the order of their keys. Equality of keys is not
always equality, so the lemmas on finding ask for a key that is equal to nothing but itself; a text
is one.
-/

namespace RequestAuth

variable {α β : Type} [BEq α]

/-- A key that is equal to itself and to nothing else. -/
structure IsExact (k : α) : Prop where
  refl : (k == k) = true
  left : ∀ l, (l == k) = true → l = k
  right : ∀ l, (k == l) = true → l = k

theorem IsExact.of_lawful [LawfulBEq α] (k : α) : IsExact k :=
  ⟨beq_self_eq_true k, fun _ h => eq_of_beq h, fun _ h => (eq_of_beq h).symm⟩

theorem IsExact.beq_eq_false {k l : α} (hk : IsExact k) (h : k ≠ l) : (k == l) = false :=
  Bool.eq_false_iff.mpr fun he => h (hk.right l he).symm

theorem isExact_text (s : String) : IsExact (Value.text s) where
  refl := by simp [BEq.beq, Value.same]
  left l h := by cases l <;> simp_all [BEq.beq, Value.same]
  right l h := by cases l <;> simp_all [BEq.beq, Value.same]

theorem IsExact.prod {γ : Type} [BEq γ] {k : α} {l : γ} (hk : IsExact k) (hl : IsExact l) :
    IsExact (k, l) where
  refl := by simp [BEq.beq, hk.refl, hl.refl]
  left := by
    rintro ⟨a, c⟩ h
    obtain ⟨ha, hc⟩ := (Bool.and_eq_true _ _).mp h
    rw [hk.left a ha, hl.left c hc]
  right := by
    rintro ⟨a, c⟩ h
    obtain ⟨ha, hc⟩ := (Bool.and_eq_true _ _).mp h
    rw [hk.right a ha, hl.right c hc]

theorem isExact_operation (p m : String) : IsExact (Value.text p, m) :=
  (isExact_text p).prod (.of_lawful m)

/-! ### Looking up -/

theorem mem_of_lookup {k : α} (hk : IsExact k) {v : β} {l : List (α × β)}
    (h : l.lookup k = some v) : (k, v) ∈ l := by
  induction l with
  | nil => cases h
  | cons e l ih =>
    rw [List.lookup_cons] at h
    split at h
    · rename_i he
      cases h
      rw [← hk.right e.1 he]
      exact .head _
    · exact .tail _ (ih h)

theorem isSome_lookup {k : α} (hk : IsExact k) {v : β} {l : List (α × β)} (h : (k, v) ∈ l) :
    (l.lookup k).isSome = true := by
  induction l with
  | nil => cases h
  | cons e l ih =>
    rw [List.lookup_cons]
    split
    · rfl
    · rename_i he
      rcases List.mem_cons.mp h with rfl | h
      · simp [hk.refl] at he
      · exact ih h

/-- A key is found with the value that alone stands under it. -/
theorem lookup_eq_some {k : α} (hk : IsExact k) {v : β} {l : List (α × β)} (h : (k, v) ∈ l)
    (hv : ∀ w, (k, w) ∈ l → w = v) : l.lookup k = some v := by
  obtain ⟨w, hw⟩ := Option.isSome_iff_exists.mp (isSome_lookup hk h)
  rw [hw, hv w (mem_of_lookup hk hw)]

/-! ### Putting -/

theorem lookup_putEntry_self {k : α} (hk : IsExact k) (v : β) (l : List (α × β)) :
    (putEntry k v l).lookup k = some v := by
  induction l with
  | nil => simp [putEntry, List.lookup_cons, hk.refl]
  | cons e l ih =>
    obtain ⟨x, w⟩ := e
    unfold putEntry
    by_cases h : (x == k) = true
    · obtain rfl := hk.left x h
      simp [List.lookup_cons, hk.refl]
    · have hx : (k == x) = false := hk.beq_eq_false fun he => h (he ▸ hk.refl)
      simp [List.lookup_cons, h, hx, ih]

theorem lookup_putEntry_of_ne {k x : α} (hx : IsExact x) (h : x ≠ k) (v : β)
    (l : List (α × β)) : (putEntry k v l).lookup x = l.lookup x := by
  induction l with
  | nil => simp [putEntry, List.lookup_cons, hx.beq_eq_false h]
  | cons e l ih =>
    obtain ⟨y, w⟩ := e
    unfold putEntry
    by_cases hy : (y == k) = true
    · have hne : x ≠ y := by
        rintro rfl
        exact h (hx.right k hy).symm
      simp [List.lookup_cons, hy, hx.beq_eq_false hne]
    · simp [List.lookup_cons, hy, ih]

theorem ofEntries_concat (l : List (α × β)) (e : α × β) :
    ofEntries (l ++ [e]) = putEntry e.1 e.2 (ofEntries l) := List.foldl_append

/-- Of the entries with one key the last counts. -/
theorem lookup_ofEntries {k : α} (hk : IsExact k) (l : List (α × β)) :
    (ofEntries l).lookup k = l.reverse.lookup k := by
  induction l using List.reverseRecOn with
  | nil => rfl
  | append_singleton l e ih =>
    rw [ofEntries_concat, List.reverse_append, List.reverse_singleton, List.singleton_append,
      List.lookup_cons]
    by_cases h : k = e.1
    · subst h
      rw [lookup_putEntry_self hk, hk.refl]
    · rw [lookup_putEntry_of_ne hk h, hk.beq_eq_false h, ih]

/-! ### Keys and values -/

section Forall

variable {P : α → Prop} {Q : β → Prop}

theorem forall_mem_putEntry {k : α} {v : β} {l : List (α × β)} (hk : P k) (hv : Q v)
    (h : ∀ e ∈ l, P e.1 ∧ Q e.2) : ∀ e ∈ putEntry k v l, P e.1 ∧ Q e.2 := by
  induction l with
  | nil => simpa [putEntry] using ⟨hk, hv⟩
  | cons e l ih =>
    obtain ⟨he, hl⟩ := List.forall_mem_cons.mp h
    unfold putEntry
    split
    · exact List.forall_mem_cons.mpr ⟨⟨he.1, hv⟩, hl⟩
    · exact List.forall_mem_cons.mpr ⟨he, ih hl⟩

/-- What holds of the keys and of the values of entries holds of those of their mapping. -/
theorem forall_mem_ofEntries {l : List (α × β)} (h : ∀ e ∈ l, P e.1 ∧ Q e.2) :
    ∀ e ∈ ofEntries l, P e.1 ∧ Q e.2 := by
  induction l using List.reverseRecOn with
  | nil => exact List.forall_mem_nil _
  | append_singleton l e ih =>
    obtain ⟨hl, he⟩ := List.forall_mem_append.mp h
    obtain ⟨hk, hv⟩ := he e (.head _)
    rw [ofEntries_concat]
    exact forall_mem_putEntry hk hv (ih hl)

end Forall

/-! ### Keys in order -/

variable [LawfulBEq α]

theorem map_fst_putEntry (k : α) (v : β) (l : List (α × β)) :
    (putEntry k v l).map Prod.fst =
      if k ∈ l.map Prod.fst then l.map Prod.fst else l.map Prod.fst ++ [k] := by
  induction l with
  | nil => rfl
  | cons e l ih =>
    unfold putEntry
    by_cases h : e.1 = k
    · simp [h]
    · have hne : k ≠ e.1 := Ne.symm h
      simp only [beq_eq_false_iff_ne.mpr h, Bool.false_eq_true, ↓reduceIte, List.map_cons, ih,
        List.mem_cons, hne, false_or]
      split <;> rfl

/-- Each key stands where it stood first. -/
theorem map_fst_ofEntries (l : List (α × β)) :
    (ofEntries l).map Prod.fst = (l.map Prod.fst).eraseDups := by
  induction l using List.reverseRecOn with
  | nil => rfl
  | append_singleton l e ih =>
    rw [ofEntries_concat, map_fst_putEntry, ih, List.map_append, List.eraseDups_append]
    by_cases h : e.1 ∈ l.map Prod.fst
    · rw [if_pos (List.mem_eraseDups.mpr h)]
      simp [List.removeAll, h]
    · rw [if_neg fun hmem => h (List.mem_eraseDups.mp hmem)]
      simp [List.removeAll, h, List.eraseDups_cons]

theorem nodup_ofEntries (l : List (α × β)) : ((ofEntries l).map Prod.fst).Nodup := by
  induction l using List.reverseRecOn with
  | nil => exact List.nodup_nil
  | append_singleton l e ih =>
    rw [ofEntries_concat, map_fst_putEntry]
    split
    · exact ih
    · rename_i h
      refine List.nodup_append.mpr ⟨ih, by simp, ?_⟩
      rintro k hk _ hmem rfl
      exact h (List.mem_singleton.mp hmem ▸ hk)

theorem putEntry_of_not_mem {k : α} {l : List (α × β)} (h : k ∉ l.map Prod.fst) (v : β) :
    putEntry k v l = l ++ [(k, v)] := by
  induction l with
  | nil => rfl
  | cons e l ih =>
    obtain ⟨hne, hl⟩ := not_or.mp fun hor => h (List.mem_cons.mpr hor)
    rw [putEntry, beq_eq_false_iff_ne.mpr (Ne.symm hne), ih hl]
    rfl

/-- Entries with different keys are their own mapping. -/
theorem ofEntries_of_nodup {l : List (α × β)} (h : (l.map Prod.fst).Nodup) : ofEntries l = l := by
  induction l using List.reverseRecOn with
  | nil => rfl
  | append_singleton l e ih =>
    rw [List.map_append, List.nodup_append] at h
    obtain ⟨hl, -, hne⟩ := h
    have hnot : e.1 ∉ l.map Prod.fst := fun hmem => hne e.1 hmem e.1 (.head _) rfl
    rw [ofEntries_concat, ih hl, putEntry_of_not_mem hnot]

end RequestAuth
