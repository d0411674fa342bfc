import RequestAuth.Text.Form

/-!
# Form-encoded pairs

An encoded value is made of letters, digits and a few marks, and of percent signs with two capital
hexadecimal digits behind them. It is read back as the value that was encoded. None of its
characters ends a pair in a query or a cookie; so what a pair holds are these characters and those
of its name.
-/

namespace RequestAuth.Form

/-! ### Encoded texts -/

/-- Whether a character may stand in an encoded value. -/
def isEncoded (c : Char) : Bool :=
  c.isAlphanum || c == '_' || c == '.' || c == '-' || c == '~' || c == '+' || c == '%'

/-- The capital hexadecimal digits. -/
def capitalDigits : List Char := "0123456789ABCDEF".toList

/-- A text is made of characters that may stand in an encoded value, and each percent sign has two
capital hexadecimal digits behind it. -/
inductive IsEncodedText : List Char → Prop where
  /-- There is nothing. -/
  | nil : IsEncodedText []
  /-- A character other than the percent sign. -/
  | plain {c : Char} {rest : List Char} : isEncoded c = true → c ≠ '%' → IsEncodedText rest →
    IsEncodedText (c :: rest)
  /-- A percent sign with its digits. -/
  | byte {a b : Char} {rest : List Char} : a ∈ capitalDigits → b ∈ capitalDigits →
    IsEncodedText rest → IsEncodedText ('%' :: a :: b :: rest)

theorem IsEncodedText.append {s t : List Char} (hs : IsEncodedText s) (ht : IsEncodedText t) :
    IsEncodedText (s ++ t) := by
  induction hs with
  | nil => exact ht
  | plain hc hne _ ih => exact .plain hc hne ih
  | byte ha hb _ ih => exact .byte ha hb ih

theorem isEncoded_of_mem_capitalDigits : ∀ c ∈ capitalDigits, isEncoded c = true :=
  List.all_eq_true.mp (by decide)

theorem IsEncodedText.isEncoded {s : List Char} (h : IsEncodedText s) :
    ∀ c ∈ s, isEncoded c = true := by
  induction h with
  | nil => nofun
  | plain hc _ _ ih => exact List.forall_mem_cons.mpr ⟨hc, ih⟩
  | byte ha hb _ ih =>
    have hdigits := isEncoded_of_mem_capitalDigits
    exact List.forall_mem_cons.mpr ⟨rfl, List.forall_mem_cons.mpr
      ⟨hdigits _ ha, List.forall_mem_cons.mpr ⟨hdigits _ hb, ih⟩⟩⟩

/-! ### Bytes -/

/-- A byte that is kept stands as a character of its own. -/
theorem kept_byte : ∀ n < 256, isKept (UInt8.ofNat n) = true →
    isEncoded (Char.ofNat n) = true ∧ Char.ofNat n ≠ '%' ∧ Char.ofNat n ≠ '+' ∧
      (Char.ofNat n).toNat = n ∧ n < 128 := by
  decide +kernel

/-- The capital digit of a number has that value. -/
theorem hexCapital_digit : ∀ n < 16, Text.hexCapital n ∈ capitalDigits ∧
    Text.hexValue? (Text.hexCapital n) = some n := by
  decide

theorem isEncodedText_encodeByte (b : UInt8) : IsEncodedText (encodeByte b) := by
  have hb := b.toNat_lt
  unfold encodeByte
  split
  · rename_i hkept
    rw [← UInt8.ofNat_toNat (x := b)] at hkept
    obtain ⟨hencoded, hpercent, -⟩ := kept_byte b.toNat hb hkept
    exact .plain hencoded hpercent .nil
  · split
    · exact .plain (by decide) (by decide) .nil
    · exact .byte (hexCapital_digit _ (by omega)).1 (hexCapital_digit _ (by omega)).1 .nil

/-- A character that stands for itself is read as its byte. -/
theorem decodeBytes?_plain {c : Char} (hplus : c ≠ '+') (hpercent : c ≠ '%')
    (hascii : c.toNat < 128) (rest : List Char) :
    decodeBytes? (c :: rest) = (decodeBytes? rest).map (c.toNat.toUInt8 :: ·) := by
  rw [decodeBytes?, if_pos ⟨hascii, hpercent⟩]
  · exact hplus
  · exact fun _ _ _ h => absurd h hpercent

/-- An encoded byte is read back. -/
theorem decodeBytes?_encodeByte (b : UInt8) (rest : List Char) :
    decodeBytes? (encodeByte b ++ rest) = (decodeBytes? rest).map (b :: ·) := by
  have hb := b.toNat_lt
  unfold encodeByte
  split
  · rename_i hkept
    rw [← UInt8.ofNat_toNat (x := b)] at hkept
    obtain ⟨-, hpercent, hplus, hnat, hascii⟩ := kept_byte b.toNat hb hkept
    rw [List.cons_append, List.nil_append,
      decodeBytes?_plain hplus hpercent (by rwa [hnat]), hnat]
    simp
  · split
    · rename_i hblank
      rw [hblank]
      rfl
    · have hhigh := (hexCapital_digit (b.toNat / 16) (by omega)).2
      have hlow := (hexCapital_digit (b.toNat % 16) (by omega)).2
      have hvalue : b.toNat / 16 * 16 + b.toNat % 16 = b.toNat := by omega
      rw [List.cons_append, List.cons_append, List.cons_append, List.nil_append, decodeBytes?,
        hhigh, hlow]
      simp only [Option.bind_eq_bind, Option.bind_some, hvalue, Nat.toUInt8_eq, UInt8.ofNat_toNat]
      exact Option.map_eq_bind.symm

theorem decodeBytes?_encodeBytes (bytes : List UInt8) :
    decodeBytes? (encodeBytes bytes) = some bytes := by
  unfold encodeBytes
  induction bytes with
  | nil => rfl
  | cons b bytes ih =>
    rw [List.flatMap_cons, decodeBytes?_encodeByte, ih]
    rfl

/-! ### Texts -/

theorem isEncodedText_encode (s : String) : IsEncodedText (encode s).toList := by
  rw [encode, String.toList_ofList, encodeBytes]
  induction s.toUTF8.data.toList with
  | nil => exact .nil
  | cons b bytes ih => exact (isEncodedText_encodeByte b).append ih

theorem fromUTF8?_toUTF8 (s : String) : String.fromUTF8? s.toUTF8 = some s := by
  unfold String.fromUTF8?
  rw [String.toUTF8_eq_toByteArray, dif_pos s.isValidUTF8]
  rfl

/-- An encoded text is read back. -/
theorem decode?_encode (s : String) : decode? (encode s) = some s := by
  unfold decode?
  rw [encode, String.toList_ofList, decodeBytes?_encodeBytes]
  exact fromUTF8?_toUTF8 s

theorem isEncoded_of_mem_encode {s : String} {c : Char} (h : c ∈ (encode s).toList) :
    isEncoded c = true :=
  (isEncodedText_encode s).isEncoded c h

/-! ### Pairs -/

theorem mem_toList_pair {name value : String} {c : Char} (h : c ∈ (pair name value).toList) :
    c ∈ name.toList ∨ c = '=' ∨ isEncoded c = true := by
  simp only [pair, String.toList_append, List.mem_append] at h
  rcases h with (h | h) | h
  · exact .inl h
  · exact .inr (.inl (by simpa using h))
  · exact .inr (.inr (isEncoded_of_mem_encode h))

/-- A character that may not stand in an encoded value is only in a pair when it is in its name. -/
theorem not_mem_pair {name value : String} {c : Char} (hname : c ∉ name.toList)
    (hequals : c ≠ '=') (h : isEncoded c = false) : c ∉ (pair name value).toList := by
  intro hc
  rcases mem_toList_pair hc with hc | hc | hc
  · exact hname hc
  · exact hequals hc
  · rw [h] at hc
    cases hc

theorem pair_ne_empty {name value : String} : pair name value ≠ "" := by
  intro h
  have hlist := congrArg String.toList h
  simp [pair] at hlist

end RequestAuth.Form
