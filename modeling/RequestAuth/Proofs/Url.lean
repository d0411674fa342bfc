import RequestAuth.Url
import RequestAuth.Proofs.Results

/-!
# Splitting addresses and putting them together

The parts of an address with an authority are well formed (`Url.WellFormed`), and parts that are
well formed come back when they are put together and split again. A query may be added to them, as
long as it holds none of the characters that end a query or are dropped. An address that is written
with a path behind a scheme and a host (`Url.IsWritten`) has that path.
-/

namespace RequestAuth.Url

/-! ### Cutting -/

theorem takeWhile_append_stop {α : Type} {p : α → Bool} {front rest : List α}
    (h : ∀ c ∈ front, p c = true) (hrest : ∀ c ∈ rest.head?, p c = false) :
    (front ++ rest).takeWhile p = front := by
  rw [List.takeWhile_append_of_pos h]
  cases rest with
  | nil => simp
  | cons c rest => simp [hrest c rfl]

theorem dropWhile_append_stop {α : Type} {p : α → Bool} {front rest : List α}
    (h : ∀ c ∈ front, p c = true) (hrest : ∀ c ∈ rest.head?, p c = false) :
    (front ++ rest).dropWhile p = rest := by
  rw [List.dropWhile_append_of_pos h]
  cases rest with
  | nil => rfl
  | cons c rest => simp [hrest c rfl]

theorem of_mem_takeWhile {α : Type} {p : α → Bool} {s : List α} {c : α} (h : c ∈ s.takeWhile p) :
    p c = true := List.all_eq_true.mp List.all_takeWhile c h

theorem head?_dropWhile {α : Type} {p : α → Bool} {s : List α} : ∀ c ∈ (s.dropWhile p).head?,
    p c = false := by
  induction s with
  | nil => simp
  | cons a s ih =>
    rw [List.dropWhile_cons]
    split
    · exact ih
    · rename_i ha
      simpa using ha

theorem bne_of_not_mem {mark : Char} {front : List Char} (h : mark ∉ front) :
    ∀ c ∈ front, (c != mark) = true := by
  intro c hc
  rw [bne_iff_ne]
  rintro rfl
  exact h hc

/-- What is in front of the first mark is cut off what is behind it. -/
theorem cut_append_cons {mark : Char} {front : List Char} (h : mark ∉ front) (rest : List Char) :
    cut mark (front ++ mark :: rest) = (front, rest) := by
  have hmark : ∀ c ∈ (mark :: rest).head?, (c != mark) = false := by simp
  rw [cut, takeWhile_append_stop (bne_of_not_mem h) hmark,
    dropWhile_append_stop (bne_of_not_mem h) hmark]
  rfl

/-- A marked part is cut off the one in front. -/
theorem cut_append_marked {mark : Char} {front : List Char} (h : mark ∉ front) (part : List Char) :
    cut mark (front ++ marked mark part) = (front, part) := by
  cases part with
  | nil =>
    have hempty : marked mark [] = [] := rfl
    have hend : ∀ c ∈ ([] : List Char).head?, (c != mark) = false := nofun
    rw [hempty, cut, takeWhile_append_stop (bne_of_not_mem h) hend,
      dropWhile_append_stop (bne_of_not_mem h) hend]
    rfl
  | cons c part => exact cut_append_cons h (c :: part)

theorem not_mem_cut (sep : Char) (s : List Char) : sep ∉ (cut sep s).1 := by
  intro h
  have hne := of_mem_takeWhile h
  simp at hne

theorem mem_of_mem_cut {sep c : Char} {s : List Char}
    (h : c ∈ (cut sep s).1 ∨ c ∈ (cut sep s).2) : c ∈ s := by
  rcases h with h | h
  · exact List.takeWhile_subset _ h
  · exact List.dropWhile_subset _ (List.mem_of_mem_drop h)

/-! ### Schemes -/

theorem isAlpha_iff {c : Char} :
    c.isAlpha = true ↔ (65 ≤ c.toNat ∧ c.toNat ≤ 90) ∨ (97 ≤ c.toNat ∧ c.toNat ≤ 122) := by
  have h : c.isAlpha = (decide (c.val ≥ 65 ∧ c.val ≤ 90) ||
      (decide (c.val ≥ 97) && decide (c.val ≤ 122))) := rfl
  simp only [h, Bool.or_eq_true, Bool.and_eq_true, decide_eq_true_eq, ge_iff_le,
    UInt32.le_iff_toNat_le]
  rfl

theorem toNat_lt_of_isSchemeChar {c : Char} (h : isSchemeChar c = true) : c.toNat < 128 := by
  simp only [isSchemeChar, Char.isAlphanum, Char.isDigit, Bool.or_eq_true, Bool.and_eq_true,
    decide_eq_true_eq, beq_iff_eq, isAlpha_iff, UInt32.le_iff_toNat_le, ge_iff_le] at h
  rcases h with (((((⟨-, h⟩ | ⟨-, h⟩) | ⟨-, h⟩) | rfl) | rfl) | rfl)
  case inr | inl.inr | inl.inl.inr => decide
  all_goals exact Nat.lt_of_le_of_lt h (by decide)

theorem lower_of_lt : ∀ n : Fin 128, isSchemeChar (Char.ofNat n) = true →
    isSchemeChar (Char.ofNat n).toLower = true ∧
      (Char.ofNat n).toLower.toLower = (Char.ofNat n).toLower ∧
      ((Char.ofNat n).isAlpha = true → (Char.ofNat n).toLower.isAlpha = true) := by
  decide

/-- The small letter of a character of a scheme is one too, and stays small. -/
theorem lower_of_isSchemeChar {c : Char} (h : isSchemeChar c = true) :
    isSchemeChar c.toLower = true ∧ c.toLower.toLower = c.toLower ∧
      (c.isAlpha = true → c.toLower.isAlpha = true) := by
  have hlower := lower_of_lt ⟨c.toNat, toNat_lt_of_isSchemeChar h⟩
  rw [Char.ofNat_toNat] at hlower
  exact hlower h

/-- Whether a text is a scheme in small letters. -/
structure IsScheme (s : List Char) : Prop where
  /-- A letter comes first. -/
  starts : s.head?.any Char.isAlpha = true
  /-- All characters may stand in a scheme. -/
  chars : ∀ c ∈ s, isSchemeChar c = true
  /-- All letters are small. -/
  small : ∀ c ∈ s, c.toLower = c

theorem IsScheme.ne_nil {s : List Char} (h : IsScheme s) : s ≠ [] := by
  rintro rfl
  cases h.starts

theorem isScheme_lower {s : List Char} (hstarts : s.head?.any Char.isAlpha = true)
    (hchars : ∀ c ∈ s, isSchemeChar c = true) : IsScheme (s.map Char.toLower) := by
  refine ⟨?_, ?_, ?_⟩
  · cases s with
    | nil => cases hstarts
    | cons c s => exact (lower_of_isSchemeChar (hchars c (.head _))).2.2 hstarts
  · intro c hc
    obtain ⟨d, hd, rfl⟩ := List.mem_map.mp hc
    exact (lower_of_isSchemeChar (hchars d hd)).1
  · intro c hc
    obtain ⟨d, hd, rfl⟩ := List.mem_map.mp hc
    exact (lower_of_isSchemeChar (hchars d hd)).2.1

/-- A scheme is there, or everything is left. -/
theorem splitScheme_cases (s : List Char) :
    splitScheme s = ([], s) ∨
      ∃ scheme rest, splitScheme s = (scheme, rest) ∧ IsScheme scheme ∧ ∀ c ∈ rest, c ∈ s := by
  unfold splitScheme
  dsimp only
  split
  · rename_i h
    simp only [Bool.and_eq_true, List.all_eq_true] at h
    exact .inr ⟨_, _, rfl, isScheme_lower h.1.2 h.2, fun c hc => List.mem_of_mem_drop hc⟩
  · exact .inl rfl

theorem splitScheme_colon {scheme : List Char} (hstarts : scheme.head?.any Char.isAlpha = true)
    (hchars : ∀ c ∈ scheme, isSchemeChar c = true) (rest : List Char) :
    splitScheme (scheme ++ ':' :: rest) = (scheme.map Char.toLower, rest) := by
  have hcolon : ∀ c ∈ scheme, (c != ':') = true := by
    intro c hc
    rw [bne_iff_ne]
    rintro rfl
    have hc := hchars ':' hc
    revert hc
    decide
  have hfront : (scheme ++ ':' :: rest).takeWhile (· != ':') = scheme :=
    takeWhile_append_stop hcolon (by simp)
  have hall : scheme.all isSchemeChar = true := List.all_eq_true.mpr hchars
  unfold splitScheme
  dsimp only
  rw [hfront, hstarts, hall, if_pos (by simp)]
  simp

theorem splitScheme_append {scheme : List Char} (h : IsScheme scheme) (rest : List Char) :
    splitScheme (scheme ++ ':' :: rest) = (scheme, rest) := by
  have hlower : scheme.map Char.toLower = scheme := by
    rw [List.map_congr_left h.small, List.map_id']
  rw [splitScheme_colon h.starts h.chars, hlower]

/-- A text that begins with a slash has no scheme. -/
theorem splitScheme_slash (rest : List Char) : splitScheme ('/' :: rest) = ([], '/' :: rest) := by
  unfold splitScheme
  have hfront : ('/' :: rest).takeWhile (· != ':') = '/' :: rest.takeWhile (· != ':') := rfl
  dsimp only
  rw [hfront, if_neg]
  simp

/-! ### The authority -/

theorem splitAuthority_cases (s : List Char) :
    splitAuthority s = ([], s) ∨
      ∃ rest, s = '/' :: '/' :: rest ∧ splitAuthority s =
        (rest.takeWhile fun c => !endsAuthority c, rest.dropWhile fun c => !endsAuthority c) := by
  unfold splitAuthority
  split
  · exact .inr ⟨_, rfl, rfl⟩
  · exact .inl rfl

theorem splitAuthority_append {authority rest : List Char}
    (h : ∀ c ∈ authority, endsAuthority c = false)
    (hrest : ∀ c ∈ rest.head?, endsAuthority c = true) :
    splitAuthority ('/' :: '/' :: (authority ++ rest)) = (authority, rest) := by
  have hfront : ∀ c ∈ authority, (!endsAuthority c) = true := fun c hc => by simp [h c hc]
  have hstop : ∀ c ∈ rest.head?, (!endsAuthority c) = false := fun c hc => by simp [hrest c hc]
  rw [splitAuthority, takeWhile_append_stop hfront hstop, dropWhile_append_stop hfront hstop]

/-! ### Well-formed parts -/

@[simp] theorem authority_addQuery (u : Url) (query : List Char) :
    (u.addQuery query).authority = u.authority := rfl

@[simp] theorem path_addQuery (u : Url) (query : List Char) :
    (u.addQuery query).path = u.path := rfl

@[simp] theorem fragment_addQuery (u : Url) (query : List Char) :
    (u.addQuery query).fragment = u.fragment := rfl

/-- Parts that an address with an authority can have. -/
structure WellFormed (u : Url) : Prop where
  /-- The scheme is one, if there is one. -/
  scheme : u.scheme = [] ∨ IsScheme u.scheme
  /-- There is an authority. -/
  authority_ne : u.authority ≠ []
  /-- Nothing in the authority ends it. -/
  authority : ∀ c ∈ u.authority, endsAuthority c = false
  /-- The authority may stand in an address. -/
  checked : checkAuthority u.authority = .ok ()
  /-- The path begins with a slash, if there is one. -/
  path_head : ∀ c ∈ u.path.head?, c = '/'
  /-- The path ends where the query begins. -/
  path_query : '?' ∉ u.path
  /-- The path ends where the fragment begins. -/
  path_fragment : '#' ∉ u.path
  /-- The query ends where the fragment begins. -/
  query : '#' ∉ u.query
  /-- No part holds a character that is dropped. -/
  kept : ∀ c ∈ u.authority ++ u.path ++ u.query ++ u.fragment, isDropped c = false

theorem not_isDropped_of_mem_clean {s : List Char} {c : Char} (h : c ∈ clean s) :
    isDropped c = false := by
  simpa using (List.mem_filter.mp h).2

/-- Of a text whose front begins with a visible character and holds nothing that is dropped only the
rest is cleaned. -/
theorem clean_append {front : List Char} (hne : front ≠ [])
    (hhead : ∀ c ∈ front.head?, 32 < c.toNat) (h : ∀ c ∈ front, isDropped c = false)
    (rest : List Char) : clean (front ++ rest) = front ++ rest.filter fun c => !isDropped c := by
  obtain ⟨c, front, rfl⟩ := List.exists_cons_of_ne_nil hne
  have hc : 32 < c.toNat := hhead c rfl
  have hself : (c :: front).filter (fun c => !isDropped c) = c :: front :=
    List.filter_eq_self.mpr fun d hd => by simp [h d hd]
  rw [clean, List.cons_append, List.dropWhile_cons_of_neg (by simpa using hc), ← List.cons_append,
    List.filter_append, hself]

theorem split_eq_ok {s : List Char} {u : Url} :
    split s = .ok u ↔ ∃ rest tail, splitScheme (clean s) = (u.scheme, rest) ∧
      splitAuthority rest = (u.authority, tail) ∧ checkAuthority u.authority = .ok () ∧
      (cut '#' tail).2 = u.fragment ∧ cut '?' (cut '#' tail).1 = (u.path, u.query) := by
  unfold split
  rcases splitScheme (clean s) with ⟨scheme, rest⟩
  rcases hauthority : splitAuthority rest with ⟨authority, tail⟩
  rcases hfragment : cut '#' tail with ⟨front, fragment⟩
  rcases hquery : cut '?' front with ⟨path, query⟩
  simp only [hauthority, hfragment, hquery]
  constructor
  · intro h
    obtain ⟨⟨⟩, hchecked, h⟩ := bind_eq_ok.mp h
    cases h
    exact ⟨rest, tail, rfl, hauthority, hchecked, by rw [hfragment], by rw [hfragment, hquery]⟩
  · rintro ⟨rest', tail', hs, ha, hchecked, hf, hq⟩
    cases hs
    rw [hauthority] at ha
    cases ha
    rw [hfragment] at hf hq
    cases hf
    rw [hquery] at hq
    cases hq
    exact bind_eq_ok.mpr ⟨(), hchecked, rfl⟩

/-- What stands behind an authority is cut at its marks. -/
theorem split_of_parts {s scheme rest authority tail : List Char}
    (hscheme : splitScheme (clean s) = (scheme, rest))
    (hauthority : splitAuthority rest = (authority, tail))
    (hchecked : checkAuthority authority = .ok ()) :
    split s = .ok ⟨scheme, authority, (cut '?' (cut '#' tail).1).1, (cut '?' (cut '#' tail).1).2,
      (cut '#' tail).2⟩ :=
  split_eq_ok.mpr ⟨rest, tail, hscheme, hauthority, hchecked, rfl, rfl⟩

/-- What stands behind the scheme, if there is one, and holds nothing that is dropped. -/
theorem scheme_of_splitScheme {s scheme rest : List Char}
    (h : splitScheme (clean s) = (scheme, rest)) :
    (scheme = [] ∨ IsScheme scheme) ∧ ∀ c ∈ rest, isDropped c = false := by
  rcases splitScheme_cases (clean s) with hnone | ⟨scheme', rest', hsome, hscheme, hmem⟩
  · rw [h] at hnone
    cases hnone
    exact ⟨.inl rfl, fun c hc => not_isDropped_of_mem_clean hc⟩
  · rw [h] at hsome
    cases hsome
    exact ⟨.inr hscheme, fun c hc => not_isDropped_of_mem_clean (hmem c hc)⟩

/-- An authority ends where one of the other parts begins. -/
theorem authority_of_splitAuthority {s authority tail : List Char}
    (h : splitAuthority s = (authority, tail)) (hne : authority ≠ []) :
    (∀ c ∈ authority, endsAuthority c = false) ∧ (∀ c ∈ tail.head?, endsAuthority c = true) ∧
      ∀ c ∈ authority ++ tail, c ∈ s := by
  rcases splitAuthority_cases s with hnone | ⟨rest, rfl, hsome⟩
  · rw [h] at hnone
    cases hnone
    exact absurd rfl hne
  · rw [h] at hsome
    cases hsome
    refine ⟨fun c hc => by simpa using of_mem_takeWhile hc,
      fun c hc => by simpa using head?_dropWhile c hc, fun c hc => ?_⟩
    rw [List.takeWhile_append_dropWhile] at hc
    exact .tail _ (.tail _ hc)

theorem head?_cut {sep c : Char} {s : List Char} (h : (cut sep s).1.head? = some c) :
    s.head? = some c ∧ c ≠ sep := by
  cases s with
  | nil => cases h
  | cons d s =>
    unfold cut at h
    rw [List.takeWhile_cons] at h
    split at h
    · rename_i hd
      cases h
      exact ⟨rfl, by simpa using hd⟩
    · cases h

/-- The parts of an address with an authority are well formed. -/
theorem wellFormed_of_split {s : List Char} {u : Url} (h : split s = .ok u)
    (hne : u.authority ≠ []) : u.WellFormed := by
  obtain ⟨scheme, authority, path, query, fragment⟩ := u
  obtain ⟨rest, tail, hscheme, hauthority, hchecked, rfl, hquery⟩ := split_eq_ok.mp h
  obtain ⟨hs, hrest⟩ := scheme_of_splitScheme hscheme
  obtain ⟨ha, htail, hmem⟩ := authority_of_splitAuthority hauthority hne
  have hpath : path = (cut '?' (cut '#' tail).1).1 := by rw [hquery]
  have hq : query = (cut '?' (cut '#' tail).1).2 := by rw [hquery]
  have hparts : ∀ c ∈ path ++ query ++ (cut '#' tail).2, c ∈ tail := by
    intro c hc
    rw [hpath, hq] at hc
    simp only [List.mem_append] at hc
    rcases hc with hc | hc
    · exact mem_of_mem_cut (.inl (mem_of_mem_cut hc))
    · exact mem_of_mem_cut (.inr hc)
  have hfront : ∀ c ∈ path ++ query, c ∈ (cut '#' tail).1 := by
    intro c hc
    rw [hpath, hq] at hc
    exact mem_of_mem_cut (List.mem_append.mp hc)
  have hmark := not_mem_cut '#' tail
  refine ⟨hs, hne, ha, hchecked, ?head, ?question, ?path, ?query, ?kept⟩
  case head =>
    -- what ends the authority is a slash, or one of the marks at which the path was cut off
    intro c hc
    rw [hpath] at hc
    obtain ⟨hc, hquestion⟩ := head?_cut hc
    obtain ⟨hc, hnumber⟩ := head?_cut hc
    simpa [endsAuthority, hquestion, hnumber] using htail c hc
  case question =>
    rw [hpath]
    exact not_mem_cut '?' _
  case path => exact fun hc => hmark (hfront '#' (List.mem_append_left _ hc))
  case query => exact fun hc => hmark (hfront '#' (List.mem_append_right _ hc))
  case kept =>
    intro c hc
    refine hrest c (hmem c ?_)
    simp only [List.append_assoc, List.mem_append] at hc ⊢
    exact hc.imp_right fun hc => hparts c (by simpa using hc)

theorem mem_of_mem_marked {mark c : Char} {part : List Char} (h : c ∈ marked mark part) :
    c = mark ∨ c ∈ part := by
  cases part with
  | nil => cases h
  | cons d part => exact List.mem_cons.mp h

theorem lt_toNat_of_isAlpha {c : Char} (h : c.isAlpha = true) : 32 < c.toNat := by
  rcases isAlpha_iff.mp h with ⟨h, -⟩ | ⟨h, -⟩
  · exact Nat.lt_of_lt_of_le (by decide) h
  · exact Nat.lt_of_lt_of_le (by decide) h

theorem not_isDropped_of_isSchemeChar {c : Char} (h : isSchemeChar c = true) :
    isDropped c = false := by
  rw [Bool.eq_false_iff]
  intro hdropped
  simp only [isDropped, Bool.or_eq_true, beq_iff_eq] at hdropped
  rcases hdropped with ((rfl | rfl) | rfl) <;> exact absurd h (by decide)

/-- The scheme and the authority of an address, as they are written in front of a path. -/
def origin (u : Url) : List Char :=
  (if u.scheme.isEmpty then [] else u.scheme ++ [':']) ++ '/' :: '/' :: u.authority

/-- What stands behind the authority of well-formed parts. -/
def tail (u : Url) : List Char := u.path ++ marked '?' u.query ++ marked '#' u.fragment

theorem origin_ne_nil (u : Url) : u.origin ≠ [] := by simp [origin]

/-- An address with an authority begins with its origin. -/
theorem join_eq_origin_append {u : Url} (hne : u.authority ≠ [])
    (hpath : ∀ c ∈ u.path.head?, c = '/') : u.join = u.origin ++ u.tail := by
  have hshows : u.showsAuthority = true := by
    simp [showsAuthority, hne]
  have hslash : (u.path.isEmpty || u.path.head? == some '/') = true := by
    cases hp : u.path with
    | nil => rfl
    | cons c path =>
      obtain rfl := hpath c (by simp [hp])
      simp
  have hfront : u.authorityAndPath = '/' :: '/' :: (u.authority ++ u.path) := by
    rw [authorityAndPath, if_pos hshows]
    simp only [hslash, if_true]
    rfl
  rw [join, hfront, origin, tail]
  simp

namespace WellFormed

variable {u : Url}

/-- What is split behind the scheme. -/
theorem splitScheme_origin_append (h : u.WellFormed) (rest : List Char) :
    splitScheme (u.origin ++ rest) = (u.scheme, '/' :: '/' :: (u.authority ++ rest)) := by
  unfold origin
  rcases h.scheme with hnone | hscheme
  · rw [hnone]
    exact splitScheme_slash _
  · rw [if_neg (by simpa using hscheme.ne_nil), List.append_assoc, List.append_assoc]
    exact splitScheme_append hscheme _

theorem not_isDropped_of_mem_origin (h : u.WellFormed) {c : Char} (hc : c ∈ u.origin) :
    isDropped c = false := by
  simp only [origin, List.mem_append, List.mem_cons] at hc
  rcases hc with hc | rfl | rfl | hc
  · rcases h.scheme with hnone | hscheme
    · rw [hnone] at hc
      cases hc
    · rw [if_neg (by simpa using hscheme.ne_nil)] at hc
      rcases List.mem_append.mp hc with hc | hc
      · exact not_isDropped_of_isSchemeChar (hscheme.chars c hc)
      · obtain rfl := List.mem_singleton.mp hc
        rfl
  · rfl
  · rfl
  · exact h.kept c (by simp [hc])

theorem visible_of_mem_head?_origin (h : u.WellFormed) :
    ∀ c ∈ u.origin.head?, 32 < c.toNat := by
  intro c hc
  unfold origin at hc
  rcases h.scheme with hnone | hscheme
  · rw [hnone] at hc
    cases hc
    decide
  · obtain ⟨d, scheme, heq⟩ := List.exists_cons_of_ne_nil hscheme.ne_nil
    have hstarts := hscheme.starts
    rw [heq] at hstarts hc
    cases hc
    exact lt_toNat_of_isAlpha hstarts

/-- Of what stands behind the origin only tabs and line breaks are cleaned off. -/
theorem clean_origin_append (h : u.WellFormed) (rest : List Char) :
    clean (u.origin ++ rest) = u.origin ++ rest.filter fun c => !isDropped c :=
  clean_append u.origin_ne_nil h.visible_of_mem_head?_origin
    (fun _ hc => h.not_isDropped_of_mem_origin hc) rest

/-- Whatever is written behind an origin with a slash in between, the scheme and the authority are
those of the origin. -/
theorem split_origin_append (h : u.WellFormed) {rest : List Char} (hrest : rest.head? = some '/') :
    ∃ v, split (u.origin ++ rest) = .ok v ∧ v.scheme = u.scheme ∧ v.authority = u.authority := by
  obtain ⟨rest, rfl⟩ : ∃ tail, rest = '/' :: tail := by
    cases rest with
    | nil => cases hrest
    | cons c tail =>
      cases hrest
      exact ⟨tail, rfl⟩
  have hclean := h.clean_origin_append ('/' :: rest)
  have hslash : ('/' :: rest).filter (fun c => !isDropped c) =
      '/' :: rest.filter fun c => !isDropped c := rfl
  rw [hslash] at hclean
  generalize rest.filter (fun c => !isDropped c) = kept at hclean
  have hends : ∀ c ∈ ('/' :: kept).head?, endsAuthority c = true := by
    rintro c ⟨⟩
    rfl
  have hscheme : splitScheme (clean (u.origin ++ '/' :: rest)) =
      (u.scheme, '/' :: '/' :: (u.authority ++ '/' :: kept)) := by
    rw [hclean, h.splitScheme_origin_append]
  exact ⟨_, split_of_parts hscheme (splitAuthority_append h.authority hends) h.checked, rfl, rfl⟩

theorem head?_tail (h : u.WellFormed) : ∀ c ∈ u.tail.head?, endsAuthority c = true := by
  intro c hc
  unfold tail at hc
  cases hp : u.path with
  | cons d path =>
    obtain rfl := h.path_head d (by simp [hp])
    rw [hp] at hc
    cases hc
    rfl
  | nil =>
    rw [hp] at hc
    cases hq : u.query with
    | cons d query =>
      rw [hq] at hc
      cases hc
      rfl
    | nil =>
      rw [hq] at hc
      cases hf : u.fragment with
      | cons d fragment =>
        rw [hf] at hc
        cases hc
        rfl
      | nil =>
        rw [hf] at hc
        cases hc

theorem not_isDropped_of_mem_tail (h : u.WellFormed) {c : Char} (hc : c ∈ u.tail) :
    isDropped c = false := by
  simp only [tail, List.mem_append] at hc
  rcases hc with (hc | hc) | hc
  · exact h.kept c (by simp [hc])
  · rcases mem_of_mem_marked hc with rfl | hc
    · rfl
    · exact h.kept c (by simp [hc])
  · rcases mem_of_mem_marked hc with rfl | hc
    · rfl
    · exact h.kept c (by simp [hc])

/-- Nothing is cleaned off well-formed parts. -/
theorem clean_join (h : u.WellFormed) : clean u.join = u.join := by
  have htail : u.tail.filter (fun c => !isDropped c) = u.tail :=
    List.filter_eq_self.mpr fun c hc => by simp [h.not_isDropped_of_mem_tail hc]
  rw [join_eq_origin_append h.authority_ne h.path_head, h.clean_origin_append, htail]

/-- Well-formed parts come back. -/
theorem split_join (h : u.WellFormed) : split u.join = .ok u := by
  have hfront : '#' ∉ u.path ++ marked '?' u.query := by
    intro hc
    rcases List.mem_append.mp hc with hc | hc
    · exact h.path_fragment hc
    · rcases mem_of_mem_marked hc with heq | hc
      · exact absurd heq (by decide)
      · exact h.query hc
  have hfragment : cut '#' u.tail = (u.path ++ marked '?' u.query, u.fragment) :=
    cut_append_marked hfront u.fragment
  have hquery : cut '?' (u.path ++ marked '?' u.query) = (u.path, u.query) :=
    cut_append_marked h.path_query u.query
  refine split_eq_ok.mpr ⟨'/' :: '/' :: (u.authority ++ u.tail), u.tail, ?scheme, ?authority,
    h.checked, ?fragment, ?query⟩
  case scheme =>
    rw [h.clean_join, join_eq_origin_append h.authority_ne h.path_head,
      h.splitScheme_origin_append]
  case authority => exact splitAuthority_append h.authority h.head?_tail
  case fragment => rw [hfragment]
  case query => rw [hfragment, hquery]

/-- A query may be added. -/
theorem addQuery (h : u.WellFormed) {query : List Char} (hmark : '#' ∉ query)
    (hkept : ∀ c ∈ query, isDropped c = false) : (u.addQuery query).WellFormed := by
  have hmem : ∀ c ∈ (u.addQuery query).query, c ∈ u.query ∨ c = '&' ∨ c ∈ query := by
    intro c hc
    unfold Url.addQuery at hc
    dsimp only at hc
    split at hc
    · exact .inr (.inr hc)
    · simpa using hc
  refine ⟨h.scheme, h.authority_ne, h.authority, h.checked, h.path_head, h.path_query,
    h.path_fragment, fun hc => ?query, fun c hc => ?kept⟩
  case query =>
    rcases hmem '#' hc with hc | heq | hc
    · exact h.query hc
    · exact absurd heq (by decide)
    · exact hmark hc
  case kept =>
    simp only [List.mem_append, authority_addQuery, path_addQuery, fragment_addQuery] at hc
    rcases hc with ((hc | hc) | hc) | hc
    · exact h.kept c (by simp [hc])
    · exact h.kept c (by simp [hc])
    · rcases hmem c hc with hc | rfl | hc
      · exact h.kept c (by simp [hc])
      · rfl
      · exact hkept c hc
    · exact h.kept c (by simp [hc])

end WellFormed

/-- An address to which a query was added can be split, and only its query has changed. -/
theorem split_addQuery {s query : List Char} {u : Url} (h : split s = .ok u)
    (hne : u.authority ≠ []) (hmark : '#' ∉ query) (hkept : ∀ c ∈ query, isDropped c = false) :
    split (u.addQuery query).join = .ok (u.addQuery query) :=
  ((wellFormed_of_split h hne).addQuery hmark hkept).split_join

/-! ### Written addresses -/

/-- Whether a character may stand in a path. -/
def isPathChar (c : Char) : Bool := c != '?' && c != '#' && !isDropped c

/-- The path of an address is made of characters that may stand in one. -/
theorem isPathChar_of_split {s : List Char} {u : Url} (h : split s = .ok u) {c : Char}
    (hc : c ∈ u.path) : isPathChar c = true := by
  obtain ⟨scheme, authority, path, query, fragment⟩ := u
  obtain ⟨rest, tail, hscheme, hauthority, -, -, hquery⟩ := split_eq_ok.mp h
  have hpath : path = (cut '?' (cut '#' tail).1).1 := by rw [hquery]
  rw [hpath] at hc
  have hquestion : c ≠ '?' := fun heq => not_mem_cut '?' _ (heq ▸ hc)
  have hfront : c ∈ (cut '#' tail).1 := mem_of_mem_cut (.inl hc)
  have hnumber : c ≠ '#' := fun heq => not_mem_cut '#' tail (heq ▸ hfront)
  have htail : c ∈ tail := mem_of_mem_cut (.inl hfront)
  have hrest : c ∈ rest := by
    rcases splitAuthority_cases rest with hnone | ⟨rest, rfl, hsome⟩
    · rw [hauthority] at hnone
      cases hnone
      exact htail
    · rw [hauthority] at hsome
      cases hsome
      exact .tail _ (.tail _ (List.dropWhile_subset _ htail))
  simp [isPathChar, hquestion, hnumber, (scheme_of_splitScheme hscheme).2 c hrest]

/-- A scheme and a host that can stand in front of a path. -/
structure IsOrigin (scheme host : List Char) : Prop where
  /-- The scheme begins with a letter. -/
  starts : scheme.head?.any Char.isAlpha = true
  /-- The characters of the scheme may stand in one. -/
  chars : ∀ c ∈ scheme, isSchemeChar c = true
  /-- Nothing in the host ends it. -/
  ends : ∀ c ∈ host, endsAuthority c = false
  /-- Nothing is dropped from the host. -/
  kept : ∀ c ∈ host, isDropped c = false
  /-- The host may stand in an address. -/
  checked : checkAuthority host = .ok ()

/-- An address is written with a path: behind a scheme and a host, and in front of a query, of a
fragment, of both or of nothing. -/
def IsWritten (s path : List Char) : Prop :=
  ∃ scheme host rest, IsOrigin scheme host ∧
    s = scheme ++ ':' :: '/' :: '/' :: (host ++ (path ++ rest)) ∧
    ∀ c ∈ rest.head?, c = '?' ∨ c = '#'

/-- What begins with a mark still does when it is cleaned. -/
theorem head?_filter_of_mark {rest : List Char} (h : ∀ c ∈ rest.head?, c = '?' ∨ c = '#') :
    ∀ c ∈ (rest.filter fun c => !isDropped c).head?, c = '?' ∨ c = '#' := by
  cases rest with
  | nil => simp
  | cons d rest =>
    have hd : d = '?' ∨ d = '#' := h d rfl
    have hkept : (!isDropped d) = true := by rcases hd with rfl | rfl <;> rfl
    rw [List.filter_cons, if_pos hkept]
    rintro c ⟨⟩
    exact hd

/-- A path ends at a mark. -/
theorem cut_path {path rest : List Char} (hpath : ∀ c ∈ path, isPathChar c = true)
    (h : ∀ c ∈ rest.head?, c = '?' ∨ c = '#') :
    (cut '?' (cut '#' (path ++ rest)).1).1 = path := by
  have hne : ∀ c ∈ path, c ≠ '?' ∧ c ≠ '#' := by
    intro c hc
    have hchar := hpath c hc
    simp only [isPathChar, Bool.and_eq_true, bne_iff_ne] at hchar
    exact hchar.1
  have hnumber : ∀ c ∈ path, (c != '#') = true := fun c hc => bne_iff_ne.mpr (hne c hc).2
  have hquestion : ∀ c ∈ path, (c != '?') = true := fun c hc => bne_iff_ne.mpr (hne c hc).1
  have hfront : (cut '#' (path ++ rest)).1 = path ++ rest.takeWhile (· != '#') :=
    List.takeWhile_append_of_pos hnumber
  rw [hfront]
  refine takeWhile_append_stop hquestion ?_
  cases rest with
  | nil => simp
  | cons d rest => rcases h d rfl with rfl | rfl <;> simp

/-- An address that is written with a path has that path. -/
theorem IsWritten.split {s path : List Char} (h : IsWritten s path)
    (hhead : ∀ c ∈ path.head?, c = '/') (hpath : ∀ c ∈ path, isPathChar c = true) :
    ∃ u, Url.split s = .ok u ∧ u.path = path := by
  obtain ⟨scheme, host, rest, horigin, rfl, hrest⟩ := h
  have hclean : clean (scheme ++ ':' :: '/' :: '/' :: (host ++ (path ++ rest))) =
      scheme ++ ':' :: '/' :: '/' :: (host ++ (path ++ rest.filter fun c => !isDropped c)) := by
    have hkept : ∀ c ∈ scheme ++ ':' :: '/' :: '/' :: (host ++ path), isDropped c = false := by
      intro c hc
      simp only [List.mem_append, List.mem_cons] at hc
      rcases hc with hc | rfl | rfl | rfl | hc | hc
      · exact not_isDropped_of_isSchemeChar (horigin.chars c hc)
      · rfl
      · rfl
      · rfl
      · exact horigin.kept c hc
      · simpa using (Bool.and_eq_true _ _).mp (hpath c hc) |>.2
    have hvisible : ∀ c ∈ (scheme ++ ':' :: '/' :: '/' :: (host ++ path)).head?, 32 < c.toNat := by
      obtain ⟨d, scheme, rfl⟩ : ∃ d cs, scheme = d :: cs := by
        cases scheme with
        | nil => cases horigin.starts
        | cons d scheme => exact ⟨d, scheme, rfl⟩
      rintro c ⟨⟩
      exact lt_toNat_of_isAlpha horigin.starts
    simpa using clean_append (by simp) hvisible hkept rest
  have hmark := head?_filter_of_mark hrest
  have hends : ∀ c ∈ (path ++ rest.filter fun c => !isDropped c).head?, endsAuthority c = true := by
    cases path with
    | nil =>
      intro c hc
      rcases hmark c hc with rfl | rfl <;> rfl
    | cons d path =>
      rintro c ⟨⟩
      rw [hhead d rfl]
      rfl
  have hcut := cut_path hpath hmark
  generalize rest.filter (fun c => !isDropped c) = rest' at hclean hends hcut
  have hscheme := splitScheme_colon horigin.starts horigin.chars
    ('/' :: '/' :: (host ++ (path ++ rest')))
  rw [← hclean] at hscheme
  exact ⟨_, split_of_parts hscheme (splitAuthority_append horigin.ends hends) horigin.checked, hcut⟩

end RequestAuth.Url
