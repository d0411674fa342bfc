import RequestAuth.Proofs.Trim
import Mathlib.Data.Nat.Digits.Defs

/-!
# What spells an integer

The texts that are read as integers, said without the reader: digits of any script in a row, with
single underscores between them (`Numeral`), a sign or none in front, and blanks around all
(`Spells`). No digit is a blank, so the blanks that are cut off are those around the numeral.
-/

namespace RequestAuth.Text

/-- Digits in a row, with at most one underscore between two of them, and their values. -/
inductive Numeral (base : Nat) : List Char → List Nat → Prop where
  /-- A digit. -/
  | digit {c : Char} {d : Nat} : digitValue? base c = some d → Numeral base [c] [d]
  /-- A digit in front of a numeral. -/
  | next {c : Char} {d : Nat} {s : List Char} {ds : List Nat} : digitValue? base c = some d →
    Numeral base s ds → Numeral base (c :: s) (d :: ds)
  /-- A digit and an underscore in front of a numeral. -/
  | underscore {c : Char} {d : Nat} {s : List Char} {ds : List Nat} : digitValue? base c = some d →
    Numeral base s ds → Numeral base (c :: '_' :: s) (d :: ds)

variable {base value count n k : Nat} {after : Bool} {c : Char} {d : Nat} {s t : List Char}
  {ds : List Nat}

theorem ne_underscore_of_digitValue? (h : digitValue? base c = some d) : c ≠ '_' := by
  rintro rfl
  have hnone : digitValue? base '_' = none := by simp [digitValue?, decimalValue?]
  rw [hnone] at h
  cases h

/-! ### Reading digits -/

theorem readDigits?_cons_digit (h : digitValue? base c = some d) :
    readDigits? base after value count (c :: s) =
      readDigits? base true (base * value + d) (count + 1) s := by
  rw [readDigits?, if_neg (ne_underscore_of_digitValue? h), h]

/-- A numeral is read to its end. -/
theorem Numeral.readDigits?_eq (h : Numeral base s ds) (after : Bool) (value count : Nat) :
    readDigits? base after value count s =
      some (ds.foldl (fun v d => base * v + d) value, count + ds.length) := by
  induction h generalizing after value count with
  | digit hd =>
    rw [readDigits?_cons_digit hd]
    rfl
  | next hd _ ih =>
    rw [readDigits?_cons_digit hd, ih, List.foldl_cons, List.length_cons]
    congr 2
    omega
  | underscore hd _ ih =>
    rw [readDigits?_cons_digit hd, readDigits?, if_pos rfl, if_pos rfl, ih, List.foldl_cons,
      List.length_cons]
    congr 2
    omega

/-- What is read is a numeral. Behind a digit it may be nothing, or have an underscore in front. -/
theorem exists_numeral_of_readDigits? (h : readDigits? base after value count s = some (n, k)) :
    (after = true ∧ s = []) ∨
      ∃ t ds, (s = t ∨ after = true ∧ s = '_' :: t) ∧ Numeral base t ds := by
  induction s generalizing after value count with
  | nil =>
    cases after with
    | true => exact .inl ⟨rfl, rfl⟩
    | false => cases h
  | cons c s ih =>
    by_cases hc : c = '_'
    · subst hc
      rw [readDigits?, if_pos rfl] at h
      cases after with
      | false => cases h
      | true =>
        rcases ih h with ⟨⟨⟩, -⟩ | ⟨t, ds, rfl | ⟨⟨⟩, -⟩, ht⟩
        exact .inr ⟨s, ds, .inr ⟨rfl, rfl⟩, ht⟩
    · rw [readDigits?, if_neg hc] at h
      cases hd : digitValue? base c with
      | none =>
        rw [hd] at h
        cases h
      | some d =>
        rw [hd] at h
        rcases ih h with ⟨-, rfl⟩ | ⟨t, ds, rfl | ⟨-, rfl⟩, ht⟩
        · exact .inr ⟨[c], [d], .inl rfl, .digit hd⟩
        · exact .inr ⟨c :: s, d :: ds, .inl rfl, .next hd ht⟩
        · exact .inr ⟨c :: '_' :: t, d :: ds, .inl rfl, .underscore hd ht⟩

/-- The number that digits stand for, the first one counting most. -/
theorem foldl_eq_ofDigits (base : Nat) (ds : List Nat) :
    ds.foldl (fun v d => base * v + d) 0 = Nat.ofDigits base ds.reverse := by
  rw [Nat.ofDigits_eq_foldr, List.foldr_reverse]
  simp only [Nat.cast_id, Nat.add_comm]

theorem dropBaseMarker_ten (s : List Char) : dropBaseMarker 10 s = s := by
  unfold dropBaseMarker
  split
  · simp
  · rfl

theorem readNat?_eq_some : readNat? 10 s = some n ↔
    ∃ ds, Numeral 10 s ds ∧ ds.length ≤ maxIntDigits ∧ n = Nat.ofDigits 10 ds.reverse := by
  unfold readNat?
  rw [dropBaseMarker_ten]
  constructor
  · intro h
    cases hread : readDigits? 10 false 0 0 s with
    | none =>
      rw [hread] at h
      cases h
    | some found =>
      obtain ⟨value, count⟩ := found
      rcases exists_numeral_of_readDigits? hread with ⟨⟨⟩, -⟩ | ⟨t, ds, rfl | ⟨⟨⟩, -⟩, ht⟩
      rw [ht.readDigits?_eq] at h
      simp only [true_and, Nat.zero_add] at h
      split at h
      · cases h
      · rename_i hcount
        cases h
        exact ⟨ds, ht, by omega, foldl_eq_ofDigits 10 ds⟩
  · rintro ⟨ds, hs, hlength, rfl⟩
    rw [hs.readDigits?_eq]
    simp only [true_and, Nat.zero_add, foldl_eq_ofDigits]
    rw [if_neg (by omega)]

/-! ### Blanks around a numeral -/

/-- No script has a blank among its digits. -/
theorem isBlank_ofNat_of_mem_digitZeros :
    ∀ z ∈ digitZeros, ∀ k < 10, isBlank (Char.ofNat (z + k)) = false := by
  decide +kernel

theorem isBlank_of_decimalValue? (hc : 128 ≤ c.toNat) (h : decimalValue? c = some d) :
    isBlank c = false := by
  rw [decimalValue?, if_neg (by omega)] at h
  obtain ⟨z, hz, -⟩ := Option.map_eq_some_iff.mp h
  have hmem := List.mem_of_find?_eq_some hz
  have hrange : z ≤ c.toNat ∧ c.toNat < z + 10 := by simpa using List.find?_some hz
  have hk : z + (c.toNat - z) = c.toNat := by omega
  have hblank := isBlank_ofNat_of_mem_digitZeros z hmem (c.toNat - z) (by omega)
  rwa [hk, Char.ofNat_toNat] at hblank

/-- The digits of ASCII come behind its white space, and the others are decimal. -/
theorem toNat_of_digitValue? (h : digitValue? base c = some d) :
    48 ≤ c.toNat ∧ (128 ≤ c.toNat → decimalValue? c = some d) := by
  have hle (a b : Char) : a ≤ b ↔ a.toNat ≤ b.toNat := by
    rw [Char.le_def, UInt32.le_iff_toNat_le]
    rfl
  have hv := (Option.filter_eq_some_iff.mp h).1
  simp only [hle, show 'a'.toNat = 97 from rfl, show 'z'.toNat = 122 from rfl,
    show 'A'.toNat = 65 from rfl, show 'Z'.toNat = 90 from rfl] at hv
  split at hv
  · omega
  · split at hv
    · omega
    · refine ⟨?_, fun _ => hv⟩
      by_cases hc : c.toNat < 128
      · rw [decimalValue?, if_pos hc] at hv
        split at hv
        · rename_i hdigit
          exact (hle _ _).mp hdigit.1
        · cases hv
      · omega

/-- No digit is cut off as a blank. -/
theorem isNumberBlank_of_digitValue? (h : digitValue? base c = some d) :
    isNumberBlank c = false := by
  obtain ⟨hlow, hhigh⟩ := toNat_of_digitValue? h
  unfold isNumberBlank
  split
  · have hspace : c ≠ ' ' := by
      rintro rfl
      exact absurd hlow (by decide)
    simp only [Bool.or_eq_false_iff, Bool.and_eq_false_iff, decide_eq_false_iff_not,
      beq_eq_false_iff_ne]
    exact ⟨.inr (by omega), hspace⟩
  · have hc : 128 ≤ c.toNat := by omega
    exact isBlank_of_decimalValue? hc (hhigh hc)

theorem Numeral.isNumberBlank_eq_false (h : Numeral base s ds) :
    ∀ c ∈ s, isNumberBlank c = false := by
  induction h with
  | digit hd => simpa using isNumberBlank_of_digitValue? hd
  | next hd _ ih => exact List.forall_mem_cons.mpr ⟨isNumberBlank_of_digitValue? hd, ih⟩
  | underscore hd _ ih =>
    exact List.forall_mem_cons.mpr
      ⟨isNumberBlank_of_digitValue? hd, List.forall_mem_cons.mpr ⟨by decide, ih⟩⟩

/-- A numeral begins with a digit. -/
theorem Numeral.exists_mem_head? (h : Numeral base s ds) : ∃ c ∈ s.head?, 48 ≤ c.toNat := by
  cases h with
  | digit hd | next hd _ | underscore hd _ => exact ⟨_, rfl, (toNat_of_digitValue? hd).1⟩

/-- What is left of a numeral between blanks is the numeral, with the sign in front. -/
theorem Numeral.trimNumber_eq (h : Numeral base s ds) {front sign back : List Char}
    (hsign : ∀ c ∈ sign, isNumberBlank c = false)
    (hblanks : ∀ c ∈ front ++ back, isNumberBlank c = true) :
    trimNumber (front ++ (sign ++ s) ++ back) = sign ++ s := by
  rw [trimNumber_eq_trimOf]
  refine trimOf_append hblanks (isBare_of_forall fun c hc => ?_)
  exact (List.mem_append.mp hc).elim (hsign c) (h.isNumberBlank_eq_false c)

/-! ### Integers -/

/-- A text spells an integer: it is a numeral of not too many digits, with a sign or none in front
and blanks around. -/
inductive Spells : List Char → Int → Prop where
  /-- Without a minus sign the integer is the number that the numeral stands for. -/
  | positive {front sign digits back : List Char} {ds : List Nat} : sign = [] ∨ sign = ['+'] →
    Numeral 10 digits ds → ds.length ≤ maxIntDigits →
    (∀ c ∈ front ++ back, isNumberBlank c = true) →
    Spells (front ++ (sign ++ digits) ++ back) (Nat.ofDigits 10 ds.reverse : Nat)
  /-- With a minus sign it is the opposite one. -/
  | negative {front digits back : List Char} {ds : List Nat} : Numeral 10 digits ds →
    ds.length ≤ maxIntDigits → (∀ c ∈ front ++ back, isNumberBlank c = true) →
    Spells (front ++ ('-' :: digits) ++ back) (-(Nat.ofDigits 10 ds.reverse : Nat))

theorem readInt?_eq (s : List Char) :
    readInt? 10 s =
      match trimNumber s with
      | '-' :: rest => Option.map (fun n : Nat => -(n : Int)) (readNat? 10 rest)
      | '+' :: rest => Option.map (fun n : Nat => (n : Int)) (readNat? 10 rest)
      | rest => Option.map (fun n : Nat => (n : Int)) (readNat? 10 rest) := by
  have hcast (found : Option Nat) :
      (do let n ← found; pure (n : Int)) = Option.map (fun n : Nat => (n : Int)) found := by
    cases found <;> rfl
  unfold readInt?
  simp only [hcast, Option.map_map]
  rfl

/-- The integers that are read are those that are spelled. -/
theorem readInt?_eq_some {n : Int} : readInt? 10 s = some n ↔ Spells s n := by
  rw [readInt?_eq]
  constructor
  · intro h
    obtain ⟨front, back, hs, hblanks⟩ := exists_cutOff isNumberBlank s
    rw [← trimNumber_eq_trimOf] at hs
    split at h
    · rename_i digits htrim
      obtain ⟨m, hm, rfl⟩ := Option.map_eq_some_iff.mp h
      obtain ⟨ds, hdigits, hlength, rfl⟩ := readNat?_eq_some.mp hm
      rw [hs, htrim]
      exact .negative hdigits hlength hblanks
    · rename_i digits htrim
      obtain ⟨m, hm, rfl⟩ := Option.map_eq_some_iff.mp h
      obtain ⟨ds, hdigits, hlength, rfl⟩ := readNat?_eq_some.mp hm
      rw [hs, htrim]
      exact .positive (.inr rfl) hdigits hlength hblanks
    · obtain ⟨m, hm, rfl⟩ := Option.map_eq_some_iff.mp h
      obtain ⟨ds, hdigits, hlength, rfl⟩ := readNat?_eq_some.mp hm
      rw [hs]
      exact .positive (.inl rfl) hdigits hlength hblanks
  · rintro (⟨hsign, hdigits, hlength, hblanks⟩ | ⟨hdigits, hlength, hblanks⟩)
    · have hread := readNat?_eq_some.mpr ⟨_, hdigits, hlength, rfl⟩
      rcases hsign with rfl | rfl
      · rw [hdigits.trimNumber_eq (by simp) hblanks, List.nil_append]
        obtain ⟨c, hc, hlow⟩ := hdigits.exists_mem_head?
        split
        · cases hc
          exact absurd hlow (by decide)
        · cases hc
          exact absurd hlow (by decide)
        · rw [hread, Option.map_some]
      · have hplus : ∀ c ∈ ['+'], isNumberBlank c = false := List.forall_mem_singleton.mpr rfl
        rw [hdigits.trimNumber_eq hplus hblanks]
        simp [hread]
    · have hread := readNat?_eq_some.mpr ⟨_, hdigits, hlength, rfl⟩
      have hminus : ∀ c ∈ ['-'], isNumberBlank c = false := List.forall_mem_singleton.mpr rfl
      rw [← List.singleton_append, hdigits.trimNumber_eq hminus hblanks]
      simp [hread]

end RequestAuth.Text
