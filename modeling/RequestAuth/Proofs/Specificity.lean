import RequestAuth.Proofs.Requirement.Matching
import Mathlib.Data.List.Forall2

/-!
# Templates that stand for fewer paths

A declared path is more specific than another one when it stands for some of its paths and not for
all (`IsMoreSpecific`). What a template stands for is a matter of its shape, the characters that
stand for themselves with a mark in place of each parameter (`shape`, `Fits`), and the shape is as
long as the shortest paths are. So of two templates with as many parameters the more specific one has
the longer shape (`length_shape_lt`), and it is longer as a text if its parameters are not written
with fewer characters (`isRankedAhead_of_isMoreSpecific`). It is then tried first
(`rank_lt_of_isMoreSpecific`), which need not be so when its names are short.
-/

namespace RequestAuth.Path

/-! ### Shapes -/

/-- The characters of a template that stand for themselves, with a mark for each parameter. -/
def shape : List Piece → List (Option Char)
  | [] => []
  | .literal text :: ps => text.map some ++ shape ps
  | .parameter :: ps => none :: shape ps

/-- A text fits a shape: it has the characters of the shape, with some text without slashes at each
mark. -/
inductive Fits : List (Option Char) → List Char → Prop where
  /-- The empty text fits the empty shape. -/
  | nil : Fits [] []
  /-- A character stands for itself. -/
  | char {c : Char} {sh : List (Option Char)} {s : List Char} : Fits sh s →
    Fits (some c :: sh) (c :: s)
  /-- A mark stands for a text with characters but without slashes. -/
  | mark {value s : List Char} {sh : List (Option Char)} : value ≠ [] → '/' ∉ value → Fits sh s →
    Fits (none :: sh) (value ++ s)

variable {ps qs : List Piece} {sh sh' : List (Option Char)} {s : List Char}

theorem fits_map_some_append {text : List Char} :
    Fits (text.map some ++ sh) s ↔ ∃ rest, s = text ++ rest ∧ Fits sh rest := by
  induction text generalizing s with
  | nil => simp
  | cons c text ih =>
    constructor
    · rintro ⟨⟩
      rename_i s h
      obtain ⟨rest, rfl, hrest⟩ := ih.mp h
      exact ⟨rest, rfl, hrest⟩
    · rintro ⟨rest, rfl, hrest⟩
      exact .char (ih.mpr ⟨rest, rfl, hrest⟩)

/-- The shape says what a template stands for. -/
theorem instantiates_iff_fits : Instantiates ps s ↔ Fits (shape ps) s := by
  constructor
  · intro h
    induction h with
    | nil => exact .nil
    | literal _ ih => exact fits_map_some_append.mpr ⟨_, rfl, ih⟩
    | parameter hne hslash _ ih => exact .mark hne hslash ih
  · intro h
    induction ps generalizing s with
    | nil =>
      cases h
      exact .nil
    | cons p ps ih =>
      cases p with
      | literal text =>
        obtain ⟨rest, rfl, hrest⟩ := fits_map_some_append.mp h
        exact .literal (ih hrest)
      | parameter =>
        cases h with
        | mark hne hslash hrest => exact .parameter hne hslash (ih hrest)

/-- A text that fits is at least as long as the shape. -/
theorem Fits.length_le (h : Fits sh s) : sh.length ≤ s.length := by
  induction h with
  | nil => exact le_rfl
  | char _ ih => simpa using ih
  | mark hne _ _ ih =>
    have hpos := List.length_pos_of_ne_nil hne
    simp only [List.length_append, List.length_cons]
    omega

/-- A text that is as long as the shape has its characters at their places. -/
theorem Fits.forall₂ (h : Fits sh s) (hlength : s.length = sh.length) :
    List.Forall₂ (fun m c => ∀ a ∈ m, c = a) sh s := by
  induction h with
  | nil => exact .nil
  | @char c sh s h ih =>
    refine .cons ?_ (ih (by simpa using hlength))
    rintro a ⟨⟩
    rfl
  | @mark value s sh hne _ h ih =>
    -- no character is left over for a value that has more than one
    have hle := h.length_le
    have hpos := List.length_pos_of_ne_nil hne
    simp only [List.length_append, List.length_cons] at hlength
    obtain ⟨c, rfl⟩ := List.length_eq_one_iff.mp (by omega : value.length = 1)
    exact .cons nofun (ih (by omega))

/-- Without a slash in the shape there is none in a text that fits. -/
theorem Fits.slash_not_mem (h : Fits sh s) (hslash : some '/' ∉ sh) : '/' ∉ s := by
  induction h with
  | nil => simp
  | char _ ih =>
    rw [List.mem_cons, not_or] at hslash ⊢
    exact ⟨fun hc => hslash.1 (congrArg some hc), ih hslash.2⟩
  | mark _ hvalue _ ih =>
    rw [List.mem_cons, not_or] at hslash
    rw [List.mem_append, not_or]
    exact ⟨hvalue, ih hslash.2⟩

/-- The shape with a character at each mark. -/
def filled (x : Char) (sh : List (Option Char)) : List Char := sh.map fun m => m.getD x

theorem fits_filled {x : Char} (hx : x ≠ '/') (sh : List (Option Char)) : Fits sh (filled x sh) := by
  induction sh with
  | nil => exact .nil
  | cons m sh ih =>
    cases m with
    | some c => exact .char ih
    | none => exact .mark (List.cons_ne_nil x []) (by simpa using Ne.symm hx) ih

/-- A shape that another one can take the place of, with as many marks, is that shape, if the two are
of one length. -/
theorem eq_of_forall₂_of_count
    (h : List.Forall₂ (fun m m' => ∀ a : Char, m = some a → m' = some a) sh sh') :
    sh'.count none ≤ sh.count none ∧ (sh'.count none = sh.count none → sh = sh') := by
  induction h with
  | nil => exact ⟨le_rfl, fun _ => rfl⟩
  | @cons m m' sh sh' hm _ ih =>
    obtain ⟨hle, heq⟩ := ih
    cases m with
    | some a =>
      obtain rfl := hm a rfl
      simpa using ⟨hle, heq⟩
    | none =>
      cases m' with
      | none => simpa using ⟨hle, heq⟩
      | some a =>
        simp only [List.count_cons_self, List.count_cons_of_ne (by simp : some a ≠ none)]
        exact ⟨by omega, fun h => by omega⟩

/-- A character that stands for itself in a shape of the same length does so wherever it is met,
whatever is put at the marks. -/
theorem forall₂_of_fits_filled (h : ∀ x, x ≠ '/' → Fits sh (filled x sh'))
    (hlength : sh'.length = sh.length) :
    List.Forall₂ (fun m m' => ∀ a : Char, m = some a → m' = some a) sh sh' := by
  have hat (x : Char) (hx : x ≠ '/') :
      List.Forall₂ (fun m m' => ∀ a ∈ m, Option.getD m' x = a) sh sh' := by
    have hall := (h x hx).forall₂ (by simpa [filled] using hlength)
    exact List.forall₂_map_right_iff.mp hall
  have ha := List.forall₂_iff_zip.mp (hat 'a' (by decide))
  have hb := List.forall₂_iff_zip.mp (hat 'b' (by decide))
  refine List.forall₂_iff_zip.mpr ⟨ha.1, fun {m m'} hmem a hm => ?_⟩
  cases m' with
  | some c => exact congrArg some (ha.2 hmem a hm)
  | none => exact absurd ((ha.2 hmem a hm).trans (hb.2 hmem a hm).symm) (by decide)

theorem count_shape (ps : List Piece) : (shape ps).count none = ps.count .parameter := by
  induction ps with
  | nil => rfl
  | cons p ps ih =>
    cases p with
    | literal text =>
      have hnone : (text.map some).count none = 0 := List.count_eq_zero.mpr (by simp)
      rw [shape, List.count_append, hnone, Nat.zero_add, ih, List.count_cons_of_ne (by simp)]
    | parameter => rw [shape, List.count_cons_self, List.count_cons_self, ih]

/-- A template that stands for some of another's paths is not shorter in shape. -/
theorem length_shape_le (h : ∀ s, Instantiates ps s → Instantiates qs s) :
    (shape qs).length ≤ (shape ps).length := by
  have hfits := instantiates_iff_fits.mp
    (h _ (instantiates_iff_fits.mpr (fits_filled (by decide : 'a' ≠ '/') (shape ps))))
  simpa [filled] using hfits.length_le

/-- If it has as many parameters and does not stand for all of the paths, it is longer in shape. -/
theorem length_shape_lt (h : ∀ s, Instantiates ps s → Instantiates qs s)
    (hstrict : ∃ s, Instantiates qs s ∧ ¬ Instantiates ps s)
    (hcount : ps.count .parameter = qs.count .parameter) :
    (shape qs).length < (shape ps).length := by
  refine lt_of_le_of_ne (length_shape_le h) fun hlength => ?_
  have hfilled (x : Char) (hx : x ≠ '/') : Fits (shape qs) (filled x (shape ps)) :=
    instantiates_iff_fits.mp (h _ (instantiates_iff_fits.mpr (fits_filled hx _)))
  have heq : shape qs = shape ps :=
    (eq_of_forall₂_of_count (forall₂_of_fits_filled hfilled hlength.symm)).2
      (by rw [count_shape, count_shape, hcount])
  obtain ⟨s, hq, hp⟩ := hstrict
  rw [instantiates_iff_fits] at hq hp
  exact hp (heq ▸ hq)

/-! ### Templates as texts -/

/-- The parameters among the pieces of a template, as they are written. -/
def parameters (pieces : List (List Char)) : List (List Char) :=
  pieces.filter fun piece => piece.head? = some '{'

theorem Splits.flatten_eq {declared : List Char} {pieces : List (List Char)}
    (h : Splits declared pieces) : pieces.flatten = declared := by
  induction h with
  | uncut _ => simp
  | parameter _ _ _ ih => simp [ih]

theorem count_map_ofText (pieces : List (List Char)) :
    (pieces.map ofText).count .parameter = (parameters pieces).length := by
  induction pieces with
  | nil => rfl
  | cons piece pieces ih =>
    unfold parameters at ih ⊢
    by_cases h : piece.head? = some '{'
    · simp [ofText, h, ih]
    · simp [ofText, h, ih]

/-- A template is as long as its shape and the parameters that are written in place of the marks. -/
theorem length_flatten_add_length_parameters (pieces : List (List Char)) :
    pieces.flatten.length + (parameters pieces).length =
      (shape (pieces.map ofText)).length + (parameters pieces).flatten.length := by
  induction pieces with
  | nil => rfl
  | cons piece pieces ih =>
    unfold parameters at ih ⊢
    by_cases h : piece.head? = some '{'
    · simp only [List.filter_cons, List.map_cons, ofText, h, decide_true, if_true, shape,
        List.flatten_cons, List.length_append, List.length_cons]
      omega
    · simp only [List.filter_cons, List.map_cons, ofText, h, decide_false, Bool.false_eq_true,
        if_false, shape, List.flatten_cons, List.length_append, List.length_map]
      omega

/-- A declared path is more specific than another one: it stands for some of its paths, and not for
all of them. -/
def IsMoreSpecific (p q : String) : Prop :=
  (∀ path, IsInstanceOf path p → IsInstanceOf path q) ∧
    ∃ path, IsInstanceOf path q ∧ ¬ IsInstanceOf path p

/-- A declared path comes before another one by its text alone: it has fewer opening braces, or as
many and more characters. This is the order in which paths are tried, whatever they stand for. -/
def IsRankedAhead (p q : String) : Prop :=
  braces p < braces q ∨ braces p = braces q ∧ q.length < p.length

/-- A declared path has as many opening braces as another one and as many parameters, which are
together not shorter. This puts it ahead only when it is more specific. -/
def HasNoShorterParameters (p q : String) : Prop :=
  braces p = braces q ∧ ∃ ps qs, Splits p.toList ps ∧ Splits q.toList qs ∧
    (parameters ps).length = (parameters qs).length ∧
      (parameters qs).flatten.length ≤ (parameters ps).flatten.length

/-- A declared path is written with fewer opening braces than another one, or with as many and either
with more characters or with as many parameters that are together not shorter. -/
def IsWrittenAhead (p q : String) : Prop := IsRankedAhead p q ∨ HasNoShorterParameters p q

theorem isInstanceOf_iff {path declared : String} :
    IsInstanceOf path declared ↔ Instantiates (pieces declared) path.toList := by
  rw [← isInstance_iff_isInstanceOf, isInstance_iff]

/-- Whether a path is an instance is read off the pieces that the declared path is cut into. -/
theorem Splits.isInstanceOf {path declared : String} {pieces : List (List Char)}
    (h : Splits declared.toList pieces)
    (hmatches : matchesPieces (pieces.map ofText) path.toList = true) :
    IsInstanceOf path declared := by
  rw [matchesPieces_iff, ← h.piecesAfter_eq] at hmatches
  exact isInstanceOf_iff.mpr hmatches

/-- Of two templates with as many parameters, the more specific one is longer if its parameters are
together not shorter. -/
theorem length_lt_of_isMoreSpecific {p q : String} {ps qs : List (List Char)}
    (h : IsMoreSpecific p q) (hp : Splits p.toList ps) (hq : Splits q.toList qs)
    (hcount : (parameters ps).length = (parameters qs).length)
    (hnames : (parameters qs).flatten.length ≤ (parameters ps).flatten.length) :
    q.length < p.length := by
  obtain ⟨hsub, path, hpath, hnot⟩ := h
  have hinstance (s : List Char) (hs : Instantiates (pieces p) s) : Instantiates (pieces q) s := by
    have hmore := hsub (String.ofList s) (isInstanceOf_iff.mpr (by rwa [String.toList_ofList]))
    rwa [isInstanceOf_iff, String.toList_ofList] at hmore
  have hpieces : pieces p = ps.map ofText := hp.piecesAfter_eq
  have hqieces : pieces q = qs.map ofText := hq.piecesAfter_eq
  have hmarks : (pieces p).count .parameter = (pieces q).count .parameter := by
    rw [hpieces, hqieces, count_map_ofText, count_map_ofText, hcount]
  have hshape := length_shape_lt hinstance
    ⟨path.toList, isInstanceOf_iff.mp hpath, fun h => hnot (isInstanceOf_iff.mpr h)⟩ hmarks
  have hlengthp := length_flatten_add_length_parameters ps
  have hlengthq := length_flatten_add_length_parameters qs
  rw [hp.flatten_eq, ← hpieces] at hlengthp
  rw [hq.flatten_eq, ← hqieces] at hlengthq
  rw [← String.length_toList, ← String.length_toList]
  omega

theorem IsRankedAhead.rank_lt {p q : String} (h : IsRankedAhead p q) : rank p < rank q := by
  rcases h with hbraces | ⟨hbraces, hlength⟩
  · exact Prod.Lex.toLex_lt_toLex.mpr (.inl hbraces)
  · exact Prod.Lex.toLex_lt_toLex.mpr
      (.inr ⟨hbraces, Prod.Lex.toLex_lt_toLex.mpr (.inl (OrderDual.toDual_lt_toDual.mpr hlength))⟩)

/-- What is more specific comes before the other one by its text when its parameters are not
shorter: where the other has nothing but a parameter it has further characters. -/
theorem isRankedAhead_of_isMoreSpecific {p q : String} (h : IsMoreSpecific p q)
    (hparameters : HasNoShorterParameters p q) : IsRankedAhead p q := by
  obtain ⟨hbraces, ps, qs, hp, hq, hcount, hnames⟩ := hparameters
  exact .inr ⟨hbraces, length_lt_of_isMoreSpecific h hp hq hcount hnames⟩

/-- The more specific template is tried first when it is written ahead. -/
theorem rank_lt_of_isMoreSpecific {p q : String} (h : IsMoreSpecific p q)
    (hahead : IsWrittenAhead p q) : rank p < rank q :=
  (hahead.elim id (isRankedAhead_of_isMoreSpecific h)).rank_lt

/-! ### Other pieces in place of a parameter -/

/-- Pieces that stand for two characters or more, but for no slash, are more specific than a
parameter at the end of a path. -/
theorem isMoreSpecific_of_pieces {p q : String} {front : List Char}
    (hp : pieces p = .literal front :: ps)
    (hq : pieces q = [.literal front, .parameter, .literal []])
    (hslash : some '/' ∉ shape ps) (hlong : 1 < (shape ps).length) : IsMoreSpecific p q := by
  have hlast {value : List Char} (hne : value ≠ []) (hvalue : '/' ∉ value) :
      Instantiates (pieces q) (front ++ value) := by
    have hend : Instantiates [.literal []] ([] ++ []) := .literal .nil
    rw [hq, ← List.append_nil value]
    exact .literal (.parameter hne hvalue hend)
  constructor
  · intro path hpath
    rw [isInstanceOf_iff, hp] at hpath
    rw [isInstanceOf_iff]
    generalize path.toList = s at hpath ⊢
    cases hpath with
    | literal hrest =>
      have hfits := instantiates_iff_fits.mp hrest
      refine hlast ?_ (hfits.slash_not_mem hslash)
      rintro rfl
      have hle := hfits.length_le
      simp only [List.length_nil] at hle
      omega
  · refine ⟨String.ofList (front ++ ['a']), ?_, fun hpath => ?_⟩
    · rw [isInstanceOf_iff, String.toList_ofList]
      exact hlast (by simp) (by decide)
    · rw [isInstanceOf_iff, hp, String.toList_ofList, instantiates_iff_fits] at hpath
      have hle := hpath.length_le
      simp only [shape, List.length_append, List.length_map, List.length_singleton] at hle
      omega

end RequestAuth.Path

namespace RequestAuth.Table

variable {t : Table} {p q path : String} {method : Option String}

/-- What is found is not ranked behind a declared path that the path is an instance of. -/
theorem exists_matchPath_le (hp : t.IsDeclared method p) (hpath : Path.IsInstanceOf path p) :
    ∃ found, t.matchPath path method = some found ∧ Path.rank found ≤ Path.rank p := by
  have hgiven {method : Option String} (hm : method ≠ some "") (hp : t.IsDeclared method p) :
      ∃ found, t.matchPath path method = some found ∧ Path.rank found ≤ Path.rank p := by
    cases hfound : t.matchPath path method with
    | none => exact absurd hpath ((matchPath_eq_none_iff hm).mp hfound p hp)
    | some found => exact ⟨found, rfl, ((matchPath_eq_some_iff hm).mp hfound).2.2 p hp hpath⟩
  by_cases hm : method = some ""
  · -- an empty method counts as none
    subst hm
    obtain ⟨o, ho, hop, -⟩ := hp
    have hnone : t.IsDeclared none p := ⟨o, ho, hop, nofun⟩
    obtain ⟨found, hfound, hle⟩ := hgiven (by simp) hnone
    exact ⟨found, hfound, hle⟩
  · exact hgiven hm hp

/-- **The more specific template wins when it is written ahead.** Of two declared paths that a path is
an instance of, the one is not found if the other is more specific and has fewer braces, or as many
and either a longer text or as many parameters that are not shorter. -/
theorem more_specific_wins (t : Table) {method : Option String} {path p q : String}
    (hp : t.IsDeclared method p) (hpath : Path.IsInstanceOf path p)
    (hspecific : Path.IsMoreSpecific p q) (hahead : Path.IsWrittenAhead p q) :
    ∃ found, t.matchPath path method = some found ∧ found ≠ q := by
  obtain ⟨found, hfound, hle⟩ := exists_matchPath_le hp hpath
  refine ⟨found, hfound, ?_⟩
  rintro rfl
  exact absurd hle (not_le_of_gt (Path.rank_lt_of_isMoreSpecific hspecific hahead))

/-! ### Templates for the last segment -/

/-- Literal text behind a parameter that is not shorter makes a template that wins. -/
theorem suffixed_template_wins :
    files.IsDeclared (some "get") "/files/{name}.json" ∧
      Path.IsInstanceOf "/files/mine.json" "/files/{name}.json" ∧
        Path.IsMoreSpecific "/files/{name}.json" "/files/{id}" ∧
          Path.IsWrittenAhead "/files/{name}.json" "/files/{id}" ∧
            ∃ found, files.matchPath "/files/mine.json" (some "get") = some found ∧
              found ≠ "/files/{id}" := by
  have hfront : Path.IsUncut "/files/".toList := Path.isUncut_of_not_mem (by decide)
  have hback : Path.IsUncut ".json".toList := Path.isUncut_of_not_mem (by decide)
  have hname : Path.IsParameter ('{' :: ("name".toList ++ ['}'])) :=
    Path.isParameter_of_all (by decide)
  have hid : Path.IsParameter ('{' :: ("id".toList ++ ['}'])) :=
    Path.isParameter_of_all (by decide)
  have hp : Path.Splits "/files/{name}.json".toList
      ["/files/".toList, "{name}".toList, ".json".toList] :=
    .parameter hfront hname (.uncut hback)
  have hq : Path.Splits "/files/{id}".toList ["/files/".toList, "{id}".toList, []] :=
    .parameter hfront hid (.uncut (Path.isUncut_of_not_mem (by decide)))
  have hdeclared : files.IsDeclared (some "get") "/files/{name}.json" :=
    ⟨(⟨"/files/{name}.json", "GET"⟩, []), by simp [files], rfl, by decide⟩
  have hpath : Path.IsInstanceOf "/files/mine.json" "/files/{name}.json" :=
    hp.isInstanceOf (by decide)
  have hspecific : Path.IsMoreSpecific "/files/{name}.json" "/files/{id}" :=
    Path.isMoreSpecific_of_pieces hp.piecesAfter_eq hq.piecesAfter_eq (by decide) (by decide)
  have hahead : Path.IsWrittenAhead "/files/{name}.json" "/files/{id}" :=
    .inr ⟨by decide, _, _, hp, hq, by decide, by decide⟩
  exact ⟨hdeclared, hpath, hspecific, hahead,
    more_specific_wins files hdeclared hpath hspecific hahead⟩

/-- A table in which the template with the longest text stands for all paths of the other two. -/
def names : Table :=
  ⟨[(⟨"/{a}.json", "GET"⟩, []), (⟨"/{a}-{b}", "GET"⟩, []), (⟨"/{filename}", "GET"⟩, [])], []⟩

theorem isDeclared_names (h : (⟨p, "GET"⟩, []) ∈ names.operations) :
    names.IsDeclared (some "get") p := by
  have hmethod : "GET" = upperText "get" := by decide
  refine ⟨_, h, rfl, ?_⟩
  rintro m ⟨⟩
  exact hmethod

/-- The longest of the templates with one parameter is found, whatever else stands for the path. -/
theorem matchPath_names (hpath : Path.IsInstanceOf path "/{filename}") :
    names.matchPath path (some "get") = some "/{filename}" := by
  have hm : some "get" ≠ some "" := by decide
  refine (matchPath_eq_some_iff hm).mpr ⟨isDeclared_names (by simp [names]), hpath, ?_⟩
  rintro q ⟨o, ho, rfl, -⟩ -
  simp only [names, List.mem_cons, List.not_mem_nil, or_false] at ho
  obtain rfl | rfl | rfl := ho
  · exact Path.not_isBefore_iff.mp (by decide)
  · exact Path.not_isBefore_iff.mp (by decide)
  · exact le_rfl

/-- A template with as many braces loses to one with a longer name, and a template with two
parameters loses to one with a single parameter, although each is more specific. -/
theorem less_specific_found :
    (names.IsDeclared (some "get") "/{a}.json" ∧ names.IsDeclared (some "get") "/{filename}" ∧
      Path.IsInstanceOf "/x.json" "/{a}.json" ∧ Path.IsInstanceOf "/x.json" "/{filename}" ∧
        Path.IsMoreSpecific "/{a}.json" "/{filename}" ∧
          names.matchPath "/x.json" (some "get") = some "/{filename}") ∧
    (names.IsDeclared (some "get") "/{a}-{b}" ∧ names.IsDeclared (some "get") "/{filename}" ∧
      Path.IsInstanceOf "/x-y" "/{a}-{b}" ∧ Path.IsInstanceOf "/x-y" "/{filename}" ∧
        Path.IsMoreSpecific "/{a}-{b}" "/{filename}" ∧
          names.matchPath "/x-y" (some "get") = some "/{filename}") := by
  have hslash : Path.IsUncut "/".toList := Path.isUncut_of_not_mem (by decide)
  have hend : Path.IsUncut [] := Path.isUncut_of_not_mem (by decide)
  have hjson : Path.IsUncut ".json".toList := Path.isUncut_of_not_mem (by decide)
  have hdash : Path.IsUncut "-".toList := Path.isUncut_of_not_mem (by decide)
  have ha : Path.IsParameter ('{' :: ("a".toList ++ ['}'])) := Path.isParameter_of_all (by decide)
  have hb : Path.IsParameter ('{' :: ("b".toList ++ ['}'])) := Path.isParameter_of_all (by decide)
  have hfilename : Path.IsParameter ('{' :: ("filename".toList ++ ['}'])) :=
    Path.isParameter_of_all (by decide)
  have hsuffixed : Path.Splits "/{a}.json".toList ["/".toList, "{a}".toList, ".json".toList] :=
    .parameter hslash ha (.uncut hjson)
  have hpair : Path.Splits "/{a}-{b}".toList
      ["/".toList, "{a}".toList, "-".toList, "{b}".toList, []] :=
    .parameter hslash ha (.parameter hdash hb (.uncut hend))
  have hq : Path.Splits "/{filename}".toList ["/".toList, "{filename}".toList, []] :=
    .parameter hslash hfilename (.uncut hend)
  have hqdeclared : names.IsDeclared (some "get") "/{filename}" :=
    isDeclared_names (by simp [names])
  constructor
  · have hdeclared : names.IsDeclared (some "get") "/{a}.json" :=
      isDeclared_names (by simp [names])
    have hpath : Path.IsInstanceOf "/x.json" "/{a}.json" := hsuffixed.isInstanceOf (by decide)
    have hspecific : Path.IsMoreSpecific "/{a}.json" "/{filename}" :=
      Path.isMoreSpecific_of_pieces hsuffixed.piecesAfter_eq hq.piecesAfter_eq (by decide)
        (by decide)
    have hqpath := hspecific.1 _ hpath
    exact ⟨hdeclared, hqdeclared, hpath, hqpath, hspecific, matchPath_names hqpath⟩
  · have hdeclared : names.IsDeclared (some "get") "/{a}-{b}" :=
      isDeclared_names (by simp [names])
    have hpath : Path.IsInstanceOf "/x-y" "/{a}-{b}" := hpair.isInstanceOf (by decide)
    have hspecific : Path.IsMoreSpecific "/{a}-{b}" "/{filename}" :=
      Path.isMoreSpecific_of_pieces hpair.piecesAfter_eq hq.piecesAfter_eq (by decide)
        (by decide)
    have hqpath := hspecific.1 _ hpath
    exact ⟨hdeclared, hqdeclared, hpath, hqpath, hspecific, matchPath_names hqpath⟩

end RequestAuth.Table
