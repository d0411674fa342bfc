import RequestAuth.Yaml.Reader
import Mathlib.Algebra.Group.Nat.Defs

/-!
# Bytes that are UTF-8

Bytes that are decoded to their end are the UTF-8 of what they are decoded to (`encode_of_decode`),
so all other bytes are refused or end inside a character (`isNothing_of_decode`).

What is begun describes the bytes of it that are known (`Begun.Describes`): they are the first ones
of every character that has the bits known so far and whose next byte is in the range that is left.
Each byte either adds to that or completes the character.

A YAML file is decoded at once when it is short, and when it is no UTF-8 nothing of it can be read
(`Yaml.read_of_not_utf8`).
-/

namespace RequestAuth.Text.Utf8

/-- The last `n` bytes of a character, all behind the first one. -/
def lastBytes (c : Char) : (n : Nat) → List UInt8
  | 0 => []
  | n + 1 => UInt8.ofNat (c.toNat / 64 ^ n % 64 + 0x80) :: lastBytes c n

/-- What is begun describes the bytes of it that are known. -/
structure Begun.Describes (p : Begun) (bytes : List UInt8) : Prop where
  /-- Between two characters no byte is known. -/
  nothing : p.owed = 0 → bytes = []
  /-- Bytes behind the first one have six bits of their own. -/
  range : 0x80 ≤ p.least ∧ p.greatest ≤ 0xBF
  /-- A character with these bits and a next byte in the range begins with the bytes. -/
  encode : ∀ n (c : Char), p.owed = n + 1 → c.toNat / 64 ^ (n + 1) = p.bits →
    p.least ≤ c.toNat / 64 ^ n % 64 + 0x80 → c.toNat / 64 ^ n % 64 + 0x80 ≤ p.greatest →
      String.utf8EncodeChar c = bytes ++ lastBytes c (n + 1)

variable {p q : Begun} {b : UInt8} {bytes : List UInt8} {c : Char}

theorem describes_nothing : Begun.nothing.Describes [] where
  nothing _ := rfl
  range := ⟨Nat.le_refl _, Nat.le_refl _⟩
  encode _ _ h := nomatch h

theorem toNat_of_whole? {bits : Nat} (h : whole? bits = some c) : c.toNat = bits := by
  by_cases hbits : bits.isValidChar
  · rw [whole?, dif_pos hbits] at h
    cases h
    rfl
  · rw [whole?, dif_neg hbits] at h
    cases h

theorem encode_of_first (h : first b.toNat = some (.inl c)) : String.utf8EncodeChar c = [b] := by
  unfold first at h
  split at h
  · rename_i hb
    cases h
    have hvalid : b.toNat.isValidChar := .inl (by omega)
    have hc : (Char.ofNat b.toNat).val.toNat = b.toNat := by
      rw [Char.ofNat, dif_pos hvalid]
      rfl
    simp only [String.utf8EncodeChar, hc, hb, ↓reduceIte, UInt8.ofNat_toNat]
  · split at h
    · cases h
    · split at h
      · cases h
      · split at h
        · cases h
        · split at h <;> cases h

theorem encode_eq_two (hlow : 0x7F < c.toNat) (hhigh : c.toNat ≤ 0x7FF) :
    String.utf8EncodeChar c = UInt8.ofNat (c.toNat / 64 + 0xC0) :: lastBytes c 1 := by
  change 0x7F < c.val.toNat at hlow
  change c.val.toNat ≤ 0x7FF at hhigh
  simp only [String.utf8EncodeChar, if_neg (Nat.not_le.mpr hlow), if_pos hhigh, lastBytes,
    Nat.pow_zero, Nat.div_one]
  rw [Nat.mod_eq_of_lt (by omega : c.val.toNat / 64 < 0x20)]
  rfl

theorem encode_eq_three (hlow : 0x7FF < c.toNat) (hhigh : c.toNat ≤ 0xFFFF) :
    String.utf8EncodeChar c = UInt8.ofNat (c.toNat / 4096 + 0xE0) :: lastBytes c 2 := by
  change 0x7FF < c.val.toNat at hlow
  change c.val.toNat ≤ 0xFFFF at hhigh
  have hone : ¬c.val.toNat ≤ 0x7F := by omega
  simp only [String.utf8EncodeChar, if_neg hone, if_neg (Nat.not_le.mpr hlow), if_pos hhigh,
    lastBytes, Nat.pow_zero, Nat.pow_one, Nat.div_one]
  rw [Nat.mod_eq_of_lt (by omega : c.val.toNat / 4096 < 0x10)]
  rfl

theorem encode_eq_four (hlow : 0xFFFF < c.toNat) (hhigh : c.toNat < 0x200000) :
    String.utf8EncodeChar c = UInt8.ofNat (c.toNat / 262144 + 0xF0) :: lastBytes c 3 := by
  change 0xFFFF < c.val.toNat at hlow
  change c.val.toNat < 0x200000 at hhigh
  have hone : ¬c.val.toNat ≤ 0x7F := by omega
  have htwo : ¬c.val.toNat ≤ 0x7FF := by omega
  simp only [String.utf8EncodeChar, if_neg hone, if_neg htwo, if_neg (Nat.not_le.mpr hlow),
    lastBytes, Nat.pow_zero, Nat.pow_one, Nat.div_one, Nat.reducePow]
  rw [Nat.mod_eq_of_lt (by omega : c.val.toNat / 262144 < 0x08)]
  rfl

/-- A first byte describes itself. What is left for the second one keeps out the characters that
need fewer bytes. -/
theorem describes_of_first (h : first b.toNat = some (.inr q)) : q.Describes [b] := by
  unfold first at h
  split at h
  · cases h
  split at h
  · cases h
  split at h
  · cases h
    refine ⟨nofun, ⟨Nat.le_refl _, Nat.le_refl _⟩, ?_⟩
    rintro n c ⟨rfl⟩ hbits - -
    simp only [Nat.reduceAdd, Nat.pow_one] at hbits
    have hb : c.toNat / 64 + 0xC0 = b.toNat := by omega
    rw [encode_eq_two (by omega) (by omega), hb, UInt8.ofNat_toNat]
    rfl
  split at h
  · cases h
    refine ⟨nofun, ⟨by dsimp only; split <;> omega, Nat.le_refl _⟩, ?_⟩
    rintro n c ⟨rfl⟩ hbits hleast -
    simp only [Nat.reduceAdd, Nat.reducePow, Nat.pow_one] at hbits hleast
    have hb : c.toNat / 4096 + 0xE0 = b.toNat := by omega
    have hc : 0x7FF < c.toNat := by split at hleast <;> omega
    rw [encode_eq_three hc (by omega), hb, UInt8.ofNat_toNat]
    rfl
  split at h
  · cases h
    refine ⟨nofun, ⟨by dsimp only; split <;> omega, by dsimp only; split <;> omega⟩, ?_⟩
    rintro n c ⟨rfl⟩ hbits hleast -
    simp only [Nat.reduceAdd, Nat.reducePow] at hbits hleast
    have hb : c.toNat / 262144 + 0xF0 = b.toNat := by omega
    have hc : 0xFFFF < c.toNat := by split at hleast <;> omega
    rw [encode_eq_four hc (by omega), hb, UInt8.ofNat_toNat]
    rfl
  · cases h

theorem step_of_owed {n : Nat} (h : p.owed = n + 1) (b : UInt8) : step p b =
    if p.least ≤ b.toNat ∧ b.toNat ≤ p.greatest then
      if n = 0 then (whole? (64 * p.bits + (b.toNat - 0x80))).map .inl
      else some (.inr ⟨n, 0x80, 0xBF, 64 * p.bits + (b.toNat - 0x80)⟩)
    else none := by
  unfold step
  simp [h]

/-- A byte in the range says which six bits of the character come next. -/
theorem Begun.Describes.encode_of_byte {n : Nat} (hp : p.Describes bytes) (howed : p.owed = n + 1)
    (hrange : p.least ≤ b.toNat ∧ b.toNat ≤ p.greatest)
    (hbits : c.toNat / 64 ^ n = 64 * p.bits + (b.toNat - 0x80)) :
    String.utf8EncodeChar c = bytes ++ [b] ++ lastBytes c n := by
  have hpossible := hp.range
  have hnext : c.toNat / 64 ^ n % 64 + 0x80 = b.toNat := by omega
  have hknown : c.toNat / 64 ^ (n + 1) = p.bits := by
    rw [Nat.pow_succ, ← Nat.div_div_eq_div_mul]
    omega
  rw [hp.encode n c howed hknown (hnext ▸ hrange.1) (hnext ▸ hrange.2), lastBytes, hnext,
    UInt8.ofNat_toNat, List.append_assoc, List.singleton_append]

/-- What a byte adds to describes it too. -/
theorem describes_of_step (hp : p.Describes bytes) (h : step p b = some (.inr q)) :
    q.Describes (bytes ++ [b]) := by
  cases howed : p.owed with
  | zero =>
    rw [step, if_pos howed] at h
    rw [hp.nothing howed]
    exact describes_of_first h
  | succ n =>
    rw [step_of_owed howed] at h
    split at h
    · rename_i hrange
      split at h
      · simp at h
      · rename_i hmore
        cases h
        refine ⟨fun hzero => absurd hzero hmore, ⟨Nat.le_refl _, Nat.le_refl _⟩, ?_⟩
        rintro m c ⟨rfl⟩ hbits - -
        exact hp.encode_of_byte howed hrange hbits
    · cases h

/-- A character that a byte completes has that byte and those before it. -/
theorem encode_of_step (hp : p.Describes bytes) (h : step p b = some (.inl c)) :
    String.utf8EncodeChar c = bytes ++ [b] := by
  cases howed : p.owed with
  | zero =>
    rw [step, if_pos howed] at h
    rw [hp.nothing howed]
    exact encode_of_first h
  | succ n =>
    rw [step_of_owed howed] at h
    split at h
    · rename_i hrange
      split at h
      · rename_i hlast
        subst hlast
        obtain ⟨d, hd, hc⟩ := Option.map_eq_some_iff.mp h
        obtain rfl : d = c := Sum.inl.inj hc
        have hbits : d.toNat / 64 ^ 0 = 64 * p.bits + (b.toNat - 0x80) := by
          rw [Nat.pow_zero, Nat.div_one, toNat_of_whole? hd]
        rw [hp.encode_of_byte howed hrange hbits, lastBytes, List.append_nil]
      · cases h
    · cases h

/-- What is decoded behind some characters, up to the end of one. -/
theorem decodeFrom_eq_append {read chars : List Char} {known bytes : List UInt8}
    (hp : p.Describes known) (h : decodeFrom read p bytes = (chars, some q))
    (hq : q.isNothing = true) : ∃ more, chars = read.reverse ++ more ∧
      more.flatMap String.utf8EncodeChar = known ++ bytes := by
  induction bytes generalizing read p known with
  | nil =>
    cases h
    refine ⟨[], (List.append_nil _).symm, ?_⟩
    rw [hp.nothing (by simpa [Begun.isNothing] using hq)]
    rfl
  | cons b bytes ih =>
    unfold decodeFrom at h
    split at h
    · cases h
    · rename_i c hstep
      obtain ⟨more, rfl, hmore⟩ := ih describes_nothing h
      refine ⟨c :: more, by simp, ?_⟩
      rw [List.flatMap_cons, hmore, encode_of_step hp hstep, List.append_assoc]
      rfl
    · rename_i q hstep
      obtain ⟨more, rfl, hmore⟩ := ih (describes_of_step hp hstep) h
      exact ⟨more, rfl, by rw [hmore, List.append_assoc, List.singleton_append]⟩

/-- Bytes that are decoded to the end of a character are the UTF-8 of what they are decoded to. -/
theorem encode_of_decode {chars : List Char} (h : decode .nothing bytes = (chars, some q))
    (hq : q.isNothing = true) : chars.flatMap String.utf8EncodeChar = bytes := by
  obtain ⟨more, rfl, hmore⟩ := decodeFrom_eq_append describes_nothing h hq
  exact hmore

/-- Bytes that are no UTF-8 are refused or end inside a character. -/
theorem isNothing_of_decode {chars : List Char} (h : decode .nothing bytes = (chars, some q))
    (hbytes : ¬ByteArray.IsValidUTF8 ⟨bytes.toArray⟩) : q.isNothing = false := by
  refine Bool.eq_false_iff.mpr fun hq => hbytes ⟨chars, ByteArray.ext ?_⟩
  rw [List.utf8Encode, List.data_toByteArray, encode_of_decode h hq]

theorem length_decodeFrom_le (read : List Char) (p : Begun) (bytes : List UInt8) :
    (decodeFrom read p bytes).1.length ≤ read.length + bytes.length := by
  induction bytes generalizing read p with
  | nil => simp [decodeFrom]
  | cons b bytes ih =>
    unfold decodeFrom
    split
    · simp
    · rename_i c _
      have hmore := ih (c :: read) .nothing
      rw [List.length_cons] at hmore ⊢
      omega
    · rename_i q _
      have hmore := ih read q
      rw [List.length_cons]
      omega

end RequestAuth.Text.Utf8

namespace RequestAuth.Yaml

/-! ### Files -/

open Text

variable {bytes : List UInt8}

theorem length_normalizeFrom_le (read s : List Char) :
    (normalizeFrom read s).length ≤ read.length + s.length := by
  fun_induction normalizeFrom read s with
  | case1 read rest ih | case2 read rest _ ih | case3 read c rest _ _ ih =>
    simp only [List.length_cons] at ih ⊢
    omega
  | case4 read => simp

namespace Source

theorem take_blockSize {d : Decoding} (h : d.bytes.length ≤ block) :
    d.bytes.take d.blockSize = d.bytes :=
  List.take_of_length_le (Nat.le_trans h (Nat.le_max_left _ _))

theorem countBeforeFault_of_begun {d : Decoding} (hbytes : d.bytes = [])
    (hbegun : d.begun.isNothing = false) (fuel : Nat) :
    Decoding.countBeforeFault (fuel + 1) d = some d.count := by
  unfold Decoding.countBeforeFault
  rw [hbytes, if_pos List.isEmpty_nil, hbegun, if_neg Bool.false_ne_true]

theorem undecodable?_eq (hbytes : ¬ByteArray.IsValidUTF8 ⟨bytes.toArray⟩)
    (hlength : bytes.length < 2 * portion) : undecodable? bytes = some 0 := by
  have hne : bytes ≠ [] := fun hnil => hbytes (hnil ▸ ByteArray.isValidUTF8_empty)
  have hblock : bytes.length ≤ block := Nat.le_of_lt hlength
  unfold undecodable? Decoding.countBeforeFault
  simp only [take_blockSize (d := ⟨bytes, .nothing, false, 0, 0, 0⟩) hblock]
  rw [if_neg (by simpa using hne)]
  split
  · rfl
  · rename_i chars begun hdecode
    obtain ⟨fuel, hfuel⟩ := Nat.exists_eq_succ_of_ne_zero (mt List.length_eq_zero_iff.mp hne)
    have hchars : chars.length ≤ bytes.length := by
      have hle := Utf8.length_decodeFrom_le [] .nothing bytes
      rw [show Utf8.decodeFrom [] .nothing bytes = _ from hdecode] at hle
      simpa using hle
    rw [hfuel, countBeforeFault_of_begun (by simpa using Nat.le_of_eq hfuel)
      (Utf8.isNothing_of_decode hdecode hbytes), Option.map_some]
    -- All the characters there are belong to the first portion.
    refine congrArg some (if_pos ?_)
    simp only [Bool.false_and, Bool.false_eq_true, ↓reduceIte, Nat.zero_add]
    refine Nat.lt_of_le_of_lt (length_normalizeFrom_le [] _) ?_
    split
    · rw [List.length_nil, List.length_dropLast]
      omega
    · rw [List.length_nil]
      omega

/-- Nothing can be read of a file that is no UTF-8 and is decoded at once. -/
theorem ofBytes_eq (hbytes : ¬ByteArray.IsValidUTF8 ⟨bytes.toArray⟩)
    (hlength : bytes.length < 2 * portion) : ofBytes bytes = ⟨[], some .undecodable⟩ := by
  have hending : ¬(Utf8.decode .nothing bytes).2.any (·.isNothing) = true := by
    intro h
    obtain ⟨begun, hbegun, hnothing⟩ := (Option.any_eq_true ..).mp h
    have hdecode : Utf8.decode .nothing bytes = (_, some begun) := Prod.ext rfl hbegun
    rw [Utf8.isNothing_of_decode hdecode hbytes] at hnothing
    cases hnothing
  unfold ofBytes
  simp only [undecodable?_eq hbytes hlength]
  rw [if_neg hending]
  cases List.findIdx? (fun c => !isAllowed c) (normalize (Utf8.decode .nothing bytes).1) with
  | none => rfl
  | some i => exact if_pos (Nat.zero_le _)

end Source

theorem read_of_not_utf8 (hbytes : ¬ByteArray.IsValidUTF8 ⟨bytes.toArray⟩)
    (hlength : bytes.length < 2 * Source.portion) : read bytes = .error .undecodable := by
  unfold read
  rw [Source.ofBytes_eq hbytes hlength]
  rfl

end RequestAuth.Yaml
