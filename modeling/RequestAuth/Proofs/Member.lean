import RequestAuth.Value.Access
import RequestAuth.Proofs.Entries
import RequestAuth.Proofs.Results

/-!
# Members of values

A mapping can be asked for its members and has what stands in its entries; any other value cannot be
asked. A false value gives way to a default. A value has entries when it is a mapping or its items
stand for entries (`StandsForEntries`).
-/

namespace RequestAuth.Value

variable {v w : Value} {key : String} {entries : List (Value × Value)}

/-! ### Equality with a text -/

theorem beq_text_iff {s : String} : (v == .text s) = true ↔ v = .text s := by
  constructor
  · exact (isExact_text s).left v
  · rintro rfl
    exact (isExact_text s).refl

theorem contains_text_iff {items : List Value} {s : String} :
    items.contains (.text s) = true ↔ .text s ∈ items := by
  rw [List.contains_iff_exists_mem_beq]
  constructor
  · rintro ⟨v, hv, he⟩
    rwa [← (isExact_text s).right v he]
  · exact fun h => ⟨_, h, (isExact_text s).refl⟩

/-! ### Members -/

/-- An object can be asked for its members. -/
theorem exists_entries_of_isMap (h : v.isMap = true) : ∃ es, v.entries = .ok es := by
  unfold isMap at h
  unfold Value.entries
  split at h
  · rename_i es he
    exact ⟨es, rfl⟩
  · cases h

theorem entries_of_opened (h : v.opened = .map entries) : v.entries = .ok entries := by
  unfold Value.entries
  rw [h]

theorem isMap_of_entries (h : v.entries = .ok entries) : v.isMap = true := by
  unfold Value.entries at h
  unfold isMap
  split at h
  · rfl
  · cases h

theorem member_of_entries (h : v.entries = .ok entries) (key : String) :
    v.member key = .ok ((lookup? entries key).getD .null) := by
  unfold member member?
  rw [h]
  rfl

theorem memberOr_of_entries (h : v.entries = .ok entries) (key : String) (default : Value) :
    v.memberOr key default = .ok ((lookup? entries key).getD default) := by
  unfold memberOr member?
  rw [h]
  rfl

/-- Only a mapping can be asked for a member. -/
theorem exists_entries_of_member? {w? : Option Value} (h : v.member? key = .ok w?) :
    ∃ entries, v.entries = .ok entries := by
  obtain ⟨entries, he, -⟩ := bind_eq_ok.mp h
  exact ⟨entries, he⟩

theorem exists_entries_of_member (h : v.member key = .ok w) :
    ∃ entries, v.entries = .ok entries := by
  obtain ⟨_, h, -⟩ := bind_eq_ok.mp h
  exact exists_entries_of_member? h

theorem isMap_of_memberOr {default : Value} (h : v.memberOr key default = .ok w) :
    v.isMap = true := by
  obtain ⟨_, h, -⟩ := bind_eq_ok.mp h
  obtain ⟨entries, he⟩ := exists_entries_of_member? h
  exact isMap_of_entries he

theorem exists_member_of_isMap (h : v.isMap = true) (key : String) : ∃ w, v.member key = .ok w := by
  obtain ⟨entries, he⟩ := exists_entries_of_isMap h
  exact ⟨_, member_of_entries he key⟩

theorem exists_memberOr_of_isMap (h : v.isMap = true) (key : String) (default : Value) :
    ∃ w, v.memberOr key default = .ok w := by
  obtain ⟨entries, he⟩ := exists_entries_of_isMap h
  exact ⟨_, memberOr_of_entries he key default⟩

/-! ### Defaults -/

theorem orElse_of_isTrue (h : v.isTrue = true) : v.orElse w = v := if_pos h

theorem orElse_of_not_isTrue (h : v.isTrue = false) : v.orElse w = w :=
  if_neg (by simp [h])

theorem text_orElse_empty (s : String) : (text s).orElse (text "") = text s := by
  cases h : (text s).isTrue with
  | true => exact orElse_of_isTrue h
  | false =>
    have hs : s = "" := by simpa [isTrue] using h
    rw [orElse_of_not_isTrue h, hs]

theorem map_orElse_empty (entries : List (Value × Value)) :
    (map entries).orElse (map []) = map entries := by
  cases entries with
  | nil => rfl
  | cons _ _ => rfl

/-- What holds of an empty mapping holds of what a value gives way to when it is false. -/
theorem orElse_empty_iff {P : Value → Prop} (hempty : P (.map [])) :
    P (v.orElse (.map [])) ↔ (v.isTrue = true → P v) := by
  cases h : v.isTrue with
  | true => simp [orElse_of_isTrue h]
  | false => simp [orElse_of_not_isTrue h, hempty]

/-! ### Values that stand for entries -/

/-- A value stands for entries: it is a mapping, or each of its items has two items, the first of
which may be a key. -/
inductive StandsForEntries (v : Value) : Prop where
  /-- It has entries. -/
  | map : v.isMap = true → StandsForEntries v
  /-- Its items are entries. -/
  | items {items : List Value} : v.items = .ok items →
    (∀ i ∈ items, ∃ k w, i.items = .ok [k, w] ∧ k.isKey = true) → StandsForEntries v

theorem entryOf_eq_ok {e : Value × Value} :
    v.entryOf = .ok e ↔ v.items = .ok [e.1, e.2] ∧ e.1.isKey = true := by
  obtain ⟨k, w⟩ := e
  unfold entryOf
  constructor
  · intro h
    split at h
    · rename_i hitems
      split at h
      · rename_i hkey
        cases h
        exact ⟨hitems, hkey⟩
      · cases h
    · cases h
    · cases h
  · rintro ⟨hitems, hkey⟩
    rw [hitems]
    exact if_pos hkey

/-- The entries of a value are those that it stands for. -/
theorem exists_toEntries_iff : (∃ es, v.toEntries = .ok es) ↔ v.StandsForEntries := by
  unfold toEntries
  constructor
  · rintro ⟨es, h⟩
    split at h
    · rename_i he
      exact .map (isMap_of_entries he)
    · obtain ⟨items, hitems, h⟩ := bind_eq_ok.mp h
      obtain ⟨pairs, hpairs, -⟩ := bind_eq_ok.mp h
      refine .items hitems fun i hi => ?_
      obtain ⟨e, -, he⟩ := exists_mem_of_mapM hpairs hi
      exact ⟨e.1, e.2, entryOf_eq_ok.mp he⟩
  · intro h
    cases hentries : v.entries with
    | ok es => exact ⟨es, rfl⟩
    | error fault =>
      cases h with
      | map hmap =>
        obtain ⟨es, he⟩ := exists_entries_of_isMap hmap
        cases hentries.symm.trans he
      | @items items hitems hall =>
        cases hpairs : items.mapM entryOf with
        | ok pairs => exact ⟨_, bind_eq_ok.mpr ⟨items, hitems, bind_eq_ok.mpr ⟨pairs, hpairs, rfl⟩⟩⟩
        | error fault =>
          obtain ⟨_, i, _, rfl, -, hi⟩ := mapM_eq_error.mp hpairs
          obtain ⟨k, w, hkw⟩ := hall i (by simp)
          cases hi.symm.trans (entryOf_eq_ok (e := (k, w)) |>.mpr hkw)

end RequestAuth.Value
