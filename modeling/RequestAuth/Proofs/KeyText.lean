import RequestAuth.Config
import RequestAuth.Proofs.Entries
import RequestAuth.Proofs.Trim
import RequestAuth.Proofs.Url
import RequestAuth.Proofs.Written

/-!
# The key table as a text

A key table may be given as a text, whose entries stand between commas. An entry is a name, a colon
and a value with blanks around both (`WritesKey`), or blank; any other is malformed (`IsMalformed`).
A text is read just when none of its entries is malformed, and then as the mapping of the keys that
its entries write. So a mapping and a text that writes its entries give the same key table.
-/

namespace RequestAuth

open Text

/-! ### Entries -/

/-- An entry is a name, a colon and a value, with blanks around both. -/
inductive WritesKey : String × String → List Char → Prop where
  /-- The four blank texts may be empty. -/
  | mk {name value : String} {a b c d : List Char} : (∀ x ∈ a ++ b, isBlank x = true) →
    (∀ x ∈ c ++ d, isBlank x = true) →
    WritesKey (name, value) ((a ++ name.toList ++ b) ++ ':' :: (c ++ value.toList ++ d))

/-- A name and a value that an entry can write: both are trimmed, there is a name, and it has no
colon. -/
structure IsWritableKey (key : String × String) : Prop where
  name_ne : key.1 ≠ ""
  name_bare : IsBare isBlank key.1.toList
  no_colon : ':' ∉ key.1.toList
  value_bare : IsBare isBlank key.2.toList

instance (key : String × String) : Decidable (IsWritableKey key) :=
  decidable_of_iff (key.1 ≠ "" ∧ IsBare isBlank key.1.toList ∧ ':' ∉ key.1.toList ∧
      IsBare isBlank key.2.toList)
    ⟨fun ⟨hne, hname, hcolon, hvalue⟩ => ⟨hne, hname, hcolon, hvalue⟩,
      fun h => ⟨h.name_ne, h.name_bare, h.no_colon, h.value_bare⟩⟩

/-- An entry is not blank, and has no colon or only blanks in front of the first one. -/
def IsMalformed (entry : List Char) : Prop :=
  (∃ c ∈ entry, isBlank c = false) ∧
    (':' ∉ entry ∨ ∀ c ∈ (Url.cut ':' entry).1, isBlank c = true)

variable {entry front rest : List Char} {key : String × String} {fault : Fault}

theorem isBlank_colon : isBlank ':' = false := by decide

theorem isBlank_comma : isBlank ',' = false := by decide

theorem readKeyEntry_of_blank (h : ∀ c ∈ entry, isBlank c = true) :
    readKeyEntry entry = .ok none := by
  have htrim : trim entry = [] := trimOf_eq_nil.mpr h
  unfold readKeyEntry
  simp only [htrim]
  rfl

/-- The fault of an entry. -/
def malformedEntry (entry : List Char) : Fault := .keyEntryMalformed (String.ofList (trim entry))

theorem readKeyEntry_of_no_colon (hcolon : ':' ∉ entry) (h : ∃ c ∈ entry, isBlank c = false) :
    readKeyEntry entry = .error (malformedEntry entry) := by
  have htrim : trim entry ≠ [] := by
    obtain ⟨c, hc, hblank⟩ := h
    intro hnil
    rw [trimOf_eq_nil.mp hnil c hc] at hblank
    cases hblank
  have hmem : ':' ∉ trim entry := fun hmem => hcolon (mem_of_mem_trimOf hmem)
  unfold readKeyEntry
  simp [htrim, hmem, malformedEntry]

/-- An entry is read by its first colon, whatever blanks stand around it. -/
theorem readKeyEntry_append_cons (hfront : ':' ∉ front) (rest : List Char) :
    readKeyEntry (front ++ ':' :: rest) =
      if trim front = [] then .error (malformedEntry (front ++ ':' :: rest))
      else .ok (some (String.ofList (trim front), String.ofList (trim rest))) := by
  have htrim : trim (front ++ ':' :: rest) =
      front.dropWhile isBlank ++ ':' :: rest.rdropWhile isBlank :=
    trimOf_append_cons isBlank_colon front rest
  have hdropped : ':' ∉ front.dropWhile isBlank := fun h =>
    hfront ((List.dropWhile_sublist isBlank).subset h)
  have hcut := Url.cut_append_cons hdropped (rest.rdropWhile isBlank)
  obtain ⟨hname, hvalue⟩ := Prod.mk.inj hcut
  have hfront : trim (front.dropWhile isBlank) = trim front := trimOf_dropWhile isBlank front
  have hrest : trim (rest.rdropWhile isBlank) = trim rest := trimOf_rdropWhile isBlank rest
  unfold readKeyEntry malformedEntry
  rw [htrim]
  simp only [hname, hvalue, hfront, hrest]
  simp

/-- An entry without a colon, or one cut at its first colon. -/
theorem eq_or_cut (entry : List Char) : ':' ∉ entry ∨
    ∃ front rest, ':' ∉ front ∧ entry = front ++ ':' :: rest := by
  by_cases h : ':' ∈ entry
  · obtain ⟨front, rest, rfl, hfront⟩ := List.eq_append_cons_of_mem h
    exact .inr ⟨front, rest, hfront, rfl⟩
  · exact .inl h

theorem isMalformed_append_cons (hfront : ':' ∉ front) (rest : List Char) :
    IsMalformed (front ++ ':' :: rest) ↔ ∀ c ∈ front, isBlank c = true := by
  have hvisible : ∃ c ∈ front ++ ':' :: rest, isBlank c = false := ⟨':', by simp, isBlank_colon⟩
  have hcolon : ¬(':' ∉ front ++ ':' :: rest) := by simp
  rw [IsMalformed, Url.cut_append_cons hfront, and_iff_right hvisible, or_iff_right hcolon]

theorem readKeyEntry_of_malformed (h : IsMalformed entry) :
    readKeyEntry entry = .error (malformedEntry entry) := by
  rcases eq_or_cut entry with hcolon | ⟨front, rest, hfront, rfl⟩
  · exact readKeyEntry_of_no_colon hcolon h.1
  · have htrim : trim front = [] := trimOf_eq_nil.mpr ((isMalformed_append_cons hfront rest).mp h)
    rw [readKeyEntry_append_cons hfront, if_pos htrim]

theorem readKeyEntry_of_writes (hkey : IsWritableKey key) (h : WritesKey key entry) :
    readKeyEntry entry = .ok (some key) := by
  cases h with
  | @mk name value a b c d hab hcd =>
    have hcolon : ':' ∉ a ++ name.toList ++ b := by
      have hblanks : ':' ∉ a ++ b := fun hmem => by
        have hblank := hab ':' hmem
        rw [isBlank_colon] at hblank
        cases hblank
      have hname := hkey.no_colon
      simp only [List.mem_append, not_or] at hblanks ⊢
      exact ⟨⟨hblanks.1, hname⟩, hblanks.2⟩
    have hname : trim (a ++ name.toList ++ b) = name.toList := trimOf_append hab hkey.name_bare
    have hvalue : trim (c ++ value.toList ++ d) = value.toList := trimOf_append hcd hkey.value_bare
    have hne : name.toList ≠ [] := fun hnil => hkey.name_ne (String.toList_eq_nil_iff.mp hnil)
    rw [readKeyEntry_append_cons hcolon, hname, hvalue, if_neg hne, String.ofList_toList,
      String.ofList_toList]

/-- An entry that is neither blank nor malformed writes a key. -/
theorem entry_cases (entry : List Char) : (∀ c ∈ entry, isBlank c = true) ∨ IsMalformed entry ∨
    ∃ key, IsWritableKey key ∧ WritesKey key entry := by
  by_cases hblank : ∀ c ∈ entry, isBlank c = true
  · exact .inl hblank
  refine .inr ?_
  rcases eq_or_cut entry with hcolon | ⟨front, rest, hfront, rfl⟩
  · exact .inl ⟨by simpa using hblank, .inl hcolon⟩
  by_cases hempty : trim front = []
  · exact .inl ((isMalformed_append_cons hfront rest).mpr (trimOf_eq_nil.mp hempty))
  obtain ⟨name, hname⟩ : ∃ name : String, name.toList = trim front :=
    ⟨_, String.toList_ofList⟩
  obtain ⟨value, hvalue⟩ : ∃ value : String, value.toList = trim rest :=
    ⟨_, String.toList_ofList⟩
  obtain ⟨a, b, hab, habblank⟩ := exists_cutOff isBlank front
  obtain ⟨c, d, hcd, hcdblank⟩ := exists_cutOff isBlank rest
  rw [← trim_eq_trimOf, ← hname] at hab
  rw [← trim_eq_trimOf, ← hvalue] at hcd
  refine .inr ⟨(name, value), ⟨?name_ne, ?name_bare, ?no_colon, ?value_bare⟩, ?writes⟩
  case name_ne =>
    rintro rfl
    exact hempty hname.symm
  case name_bare => exact hname ▸ isBare_trimOf isBlank front
  case no_colon => exact hname ▸ fun hmem => hfront (mem_of_mem_trimOf hmem)
  case value_bare => exact hvalue ▸ isBare_trimOf isBlank rest
  case writes =>
    rw [hab, hcd]
    exact .mk habblank hcdblank

/-- The entries that are refused are the malformed ones. -/
theorem readKeyEntry_eq_error :
    readKeyEntry entry = .error fault ↔ IsMalformed entry ∧ fault = malformedEntry entry := by
  constructor
  · intro h
    rcases entry_cases entry with hblank | hmalformed | ⟨key, hkey, hwrites⟩
    · cases h.symm.trans (readKeyEntry_of_blank hblank)
    · exact ⟨hmalformed, Except.error.inj (h.symm.trans (readKeyEntry_of_malformed hmalformed))⟩
    · cases h.symm.trans (readKeyEntry_of_writes hkey hwrites)
  · rintro ⟨hmalformed, rfl⟩
    exact readKeyEntry_of_malformed hmalformed

/-- What is read of an entry is what it writes. -/
theorem readKeyEntry_eq_some :
    readKeyEntry entry = .ok (some key) ↔ IsWritableKey key ∧ WritesKey key entry := by
  constructor
  · intro h
    rcases entry_cases entry with hblank | hmalformed | ⟨key', hkey, hwrites⟩
    · cases h.symm.trans (readKeyEntry_of_blank hblank)
    · cases h.symm.trans (readKeyEntry_of_malformed hmalformed)
    · cases h.symm.trans (readKeyEntry_of_writes hkey hwrites)
      exact ⟨hkey, hwrites⟩
  · rintro ⟨hkey, hwrites⟩
    exact readKeyEntry_of_writes hkey hwrites

/-- The entries that give nothing are the blank ones. -/
theorem readKeyEntry_eq_none :
    readKeyEntry entry = .ok none ↔ ∀ c ∈ entry, isBlank c = true := by
  refine ⟨fun h => ?_, readKeyEntry_of_blank⟩
  rcases entry_cases entry with hblank | hmalformed | ⟨key, hkey, hwrites⟩
  · exact hblank
  · cases h.symm.trans (readKeyEntry_of_malformed hmalformed)
  · cases h.symm.trans (readKeyEntry_of_writes hkey hwrites)

/-! ### Texts -/

/-- The entries of a text that are not blank. -/
def filledEntries (s : String) : List (List Char) :=
  (s.toList.splitOn ',').filter fun entry => !entry.all isBlank

/-- Entries that are read give the keys that those of them write that are not blank. -/
theorem writes_of_mapM {entries : List (List Char)} {read : List (Option (String × String))}
    (h : entries.mapM readKeyEntry = .ok read) :
    List.Forall₂ (fun key entry => IsWritableKey key ∧ WritesKey key entry) (read.filterMap id)
      (entries.filter fun entry => !entry.all isBlank) := by
  have hread := mapM_eq_ok.mp h
  clear h
  induction hread with
  | nil => exact .nil
  | @cons entry found entries read hentry _ ih =>
    cases found with
    | none =>
      have hblank : entry.all isBlank = true :=
        List.all_eq_true.mpr (readKeyEntry_eq_none.mp hentry)
      simpa [hblank] using ih
    | some key =>
      have hfilled : entry.all isBlank = false := by
        refine Bool.eq_false_iff.mpr fun hblank => ?_
        cases hentry.symm.trans (readKeyEntry_of_blank (List.all_eq_true.mp hblank))
      rw [List.filter_cons_of_pos (by simp [hfilled])]
      exact .cons (readKeyEntry_eq_some.mp hentry) ih

theorem mapM_of_writes {keys : List (String × String)} {entries : List (List Char)}
    (hkeys : ∀ key ∈ keys, IsWritableKey key) (h : List.Forall₂ WritesKey keys entries) :
    entries.mapM readKeyEntry = .ok (keys.map some) := by
  rw [mapM_eq_ok, List.forall₂_map_right_iff]
  induction h with
  | nil => exact .nil
  | cons hwrites _ ih =>
    obtain ⟨hkey, hkeys⟩ := List.forall_mem_cons.mp hkeys
    exact .cons (readKeyEntry_of_writes hkey hwrites) (ih hkeys)

/-- What a key without commas is written as has none either. -/
theorem WritesKey.not_mem_comma (h : WritesKey key entry) (hname : ',' ∉ key.1.toList)
    (hvalue : ',' ∉ key.2.toList) : ',' ∉ entry := by
  cases h with
  | @mk name value a b c d hab hcd =>
    have hblanks {s : List Char} (hs : ∀ x ∈ s, isBlank x = true) : ',' ∉ s := fun hmem => by
      have hblank := hs ',' hmem
      rw [isBlank_comma] at hblank
      cases hblank
    have hfront := hblanks hab
    have hback := hblanks hcd
    simp only [List.mem_append, List.mem_cons, not_or] at hfront hback ⊢
    exact ⟨⟨⟨hfront.1, hname⟩, hfront.2⟩, by decide, ⟨hback.1, hvalue⟩, hback.2⟩

theorem not_mem_comma_of_writes {keys : List (String × String)} {entries : List (List Char)}
    (hkeys : ∀ key ∈ keys, ',' ∉ key.1.toList ∧ ',' ∉ key.2.toList)
    (h : List.Forall₂ WritesKey keys entries) : ∀ entry ∈ entries, ',' ∉ entry := by
  induction h with
  | nil => nofun
  | cons hwrites _ ih =>
    obtain ⟨⟨hname, hvalue⟩, hkeys⟩ := List.forall_mem_cons.mp hkeys
    exact List.forall_mem_cons.mpr ⟨hwrites.not_mem_comma hname hvalue, ih hkeys⟩

/-- A mapping has the keys of a list, each in the place where it stands first, with the value that
it has last. -/
structure IsMappingOf (keys pairs : List (String × String)) : Prop where
  order : keys.map Prod.fst = (pairs.map Prod.fst).eraseDups
  value : ∀ name, keys.lookup name = pairs.reverse.lookup name

theorem isMappingOf_ofEntries (pairs : List (String × String)) :
    IsMappingOf (ofEntries pairs) pairs where
  order := map_fst_ofEntries pairs
  value name := lookup_ofEntries (.of_lawful name) pairs

theorem readKeys_text (s : String) : readKeys (.text s) = readKeyText s := by
  unfold readKeys
  split
  · rename_i hfalse
    obtain rfl : s = "" := by simpa [Value.isTrue] using hfalse
    rfl
  · rfl

/-- A key table whose names and values are texts is read as it is. -/
theorem readKeys_map {keys : List (String × String)} (h : (keys.map Prod.fst).Nodup) :
    readKeys (.map (keys.map fun key => (.text key.1, .text key.2))) = .ok keys := by
  cases keys with
  | nil => rfl
  | cons key keys =>
    have hwritten : ((key :: keys).map fun key => (Value.text key.1, Value.text key.2)).mapM
        (fun e => do return (← e.1.written, ← e.2.written)) = .ok (key :: keys) := by
      rw [mapM_eq_ok, List.forall₂_map_left_iff, List.forall₂_same]
      exact fun _ _ => rfl
    refine bind_eq_ok.mpr ⟨key :: keys, hwritten, ?_⟩
    exact congrArg Except.ok (ofEntries_of_nodup h)

/-- A text is refused for the first of its malformed entries. -/
theorem readKeyText_eq_error {s : String} :
    readKeyText s = .error fault ↔ ∃ front entry back,
      s.toList.splitOn ',' = front ++ entry :: back ∧ (∀ e ∈ front, ¬IsMalformed e) ∧
        IsMalformed entry ∧ fault = malformedEntry entry := by
  have hread (e : List Char) : (∃ found, readKeyEntry e = .ok found) ↔ ¬IsMalformed e := by
    constructor
    · rintro ⟨found, hfound⟩ hmalformed
      cases hfound.symm.trans (readKeyEntry_of_malformed hmalformed)
    · intro hmalformed
      rcases entry_cases e with hblank | hbad | ⟨key, hkey, hwrites⟩
      · exact ⟨none, readKeyEntry_of_blank hblank⟩
      · exact absurd hbad hmalformed
      · exact ⟨some key, readKeyEntry_of_writes hkey hwrites⟩
  have herror : readKeyText s = .error fault ↔
      (s.toList.splitOn ',').mapM readKeyEntry = .error fault := by
    unfold readKeyText
    rw [bind_eq_error]
    exact or_iff_left fun ⟨_, _, h⟩ => nomatch h
  simp only [herror, mapM_eq_error, hread, readKeyEntry_eq_error]

theorem exists_error_readKeyText {s : String} :
    (∃ fault, readKeyText s = .error fault) ↔
      ∃ entry ∈ s.toList.splitOn ',', IsMalformed entry := by
  constructor
  · rintro ⟨fault, h⟩
    obtain ⟨front, entry, back, hsplit, -, hentry, -⟩ := readKeyText_eq_error.mp h
    exact ⟨entry, by simp [hsplit], hentry⟩
  · rintro ⟨entry, hmem, hentry⟩
    cases h : readKeyText s with
    | error fault => exact ⟨fault, rfl⟩
    | ok keys =>
      obtain ⟨read, hread, -⟩ := bind_eq_ok.mp h
      obtain ⟨found, -, hfound⟩ := exists_mem_of_mapM hread hmem
      cases hfound.symm.trans (readKeyEntry_of_malformed hentry)

/-- A text is read as the mapping of the keys that its entries write. -/
theorem writes_of_readKeyText {s : String} {keys : List (String × String)}
    (h : readKeyText s = .ok keys) : ∃ pairs, (∀ key ∈ pairs, IsWritableKey key) ∧
      List.Forall₂ WritesKey pairs (filledEntries s) ∧ IsMappingOf keys pairs := by
  obtain ⟨read, hread, h⟩ := bind_eq_ok.mp h
  cases h
  obtain ⟨hkeys, hwrites⟩ := (List.forall₂_and_left ..).mp (writes_of_mapM hread)
  exact ⟨read.filterMap id, hkeys, hwrites, isMappingOf_ofEntries _⟩

/-- A text that writes the entries of a mapping is read as that mapping. -/
theorem readKeyText_of_writes {keys : List (String × String)} {entries : List (List Char)}
    (hnames : (keys.map Prod.fst).Nodup) (hkeys : ∀ key ∈ keys, IsWritableKey key)
    (hcommas : ∀ key ∈ keys, ',' ∉ key.1.toList ∧ ',' ∉ key.2.toList)
    (h : List.Forall₂ WritesKey keys entries) :
    readKeyText (String.ofList ([','].intercalate entries)) = .ok keys := by
  cases h with
  | nil => rfl
  | @cons key entry keys entries hentry hentries =>
    have hwrites := List.Forall₂.cons hentry hentries
    have hsplit := List.splitOn_intercalate ',' (not_mem_comma_of_writes hcommas hwrites)
      (List.cons_ne_nil entry entries)
    have hfound : ((key :: keys).map some).filterMap id = key :: keys := by simp
    refine bind_eq_ok.mpr ⟨(key :: keys).map some, ?_, ?_⟩
    · rw [String.toList_ofList, hsplit, mapM_of_writes hkeys hwrites]
    · rw [hfound, ofEntries_of_nodup hnames]
      rfl

/-- **The text form of the key table means the same as the mapping form.** A text whose entries
write the keys of a mapping, with any blanks around names and values, is read as that mapping, and
so is the mapping itself. Every other text is either refused, just when it has a malformed entry, or
read as the mapping of the keys that its entries write, without the blank ones. -/
theorem key_text_means_mapping :
    (∀ keys entries, (keys.map Prod.fst).Nodup → (∀ key ∈ keys, IsWritableKey key) →
      (∀ key ∈ keys, ',' ∉ key.1.toList ∧ ',' ∉ key.2.toList) →
      List.Forall₂ WritesKey keys entries →
        readKeys (.text (String.ofList ([','].intercalate entries))) = .ok keys ∧
        readKeys (.map (keys.map fun key => (.text key.1, .text key.2))) = .ok keys) ∧
    ∀ s,
      ((∃ fault, readKeys (.text s) = .error fault) ↔
        ∃ entry ∈ s.toList.splitOn ',', IsMalformed entry) ∧
      (∀ fault, readKeys (.text s) = .error fault → fault.kind = .configuration) ∧
      ∀ keys, readKeys (.text s) = .ok keys → ∃ pairs, (∀ key ∈ pairs, IsWritableKey key) ∧
        List.Forall₂ WritesKey pairs (filledEntries s) ∧ IsMappingOf keys pairs := by
  simp only [readKeys_text]
  constructor
  · intro keys entries hnames hkeys hcommas hwrites
    exact ⟨readKeyText_of_writes hnames hkeys hcommas hwrites, readKeys_map hnames⟩
  · refine fun s => ⟨exists_error_readKeyText, fun fault h => ?_, fun keys => writes_of_readKeyText⟩
    obtain ⟨_, entry, _, -, -, -, rfl⟩ := readKeyText_eq_error.mp h
    rfl

/-- A value with a colon and one without characters are read with blanks around them, a text with an
entry that has no colon is refused, and of two values of one key the last one counts. -/
theorem blanks_and_colons_in_key_text :
    (readKeys (.text " X-Key : a:b,Y:\t") = .ok [("X-Key", "a:b"), ("Y", "")] ∧
      readKeys (.map [(.text "X-Key", .text "a:b"), (.text "Y", .text "")]) =
        .ok [("X-Key", "a:b"), ("Y", "")]) ∧
    (∃ fault, readKeys (.text "a:1, ,b") = .error fault ∧ fault.kind = .configuration) ∧
    ∃ pairs, readKeys (.text "a:1,,b:2,a:3") = .ok [("a", "3"), ("b", "2")] ∧
      List.Forall₂ WritesKey pairs (filledEntries "a:1,,b:2,a:3") ∧
      IsMappingOf [("a", "3"), ("b", "2")] pairs := by
  obtain ⟨hround, hread⟩ := key_text_means_mapping
  refine ⟨?round, ?refused, ?read⟩
  case round =>
    exact hround [("X-Key", "a:b"), ("Y", "")] [" X-Key : a:b".toList, "Y:\t".toList] (by decide)
      (by decide) (by decide)
      (.cons (.mk (a := [' ']) (b := [' ']) (c := [' ']) (d := []) (List.all_eq_true.mp rfl)
          (List.all_eq_true.mp rfl))
        (.cons (.mk (a := []) (b := []) (c := ['\t']) (d := []) (List.all_eq_true.mp rfl)
          (List.all_eq_true.mp rfl)) .nil))
  case refused =>
    obtain ⟨herror, hkind, -⟩ := hread "a:1, ,b"
    obtain ⟨fault, hfault⟩ := herror.mpr ⟨['b'], by decide, ⟨'b', by decide, by decide⟩,
      .inl (by decide)⟩
    exact ⟨fault, hfault, hkind fault hfault⟩
  case read =>
    have hkeys : readKeys (.text "a:1,,b:2,a:3") = .ok [("a", "3"), ("b", "2")] := rfl
    obtain ⟨pairs, -, hwrites, hmapping⟩ := (hread "a:1,,b:2,a:3").2.2 _ hkeys
    exact ⟨pairs, hkeys, hwrites, hmapping⟩

end RequestAuth
