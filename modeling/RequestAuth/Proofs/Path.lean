import RequestAuth.Path.Template
import Mathlib.Data.Char
import Mathlib.Data.List.Lex
import Mathlib.Data.Prod.Lex

/-!
# Matching and ranking declared paths

`matchesPieces` decides `Instantiates`, so a path without braces stands for itself alone. The rank
of a declared path puts `isBefore` down to a linear order, which the ranked list follows.
-/

namespace RequestAuth.Path

/-! ### Instances -/

/-- What may follow a parameter: some text without a slash stands before it. -/
theorem mem_rests {s t : List Char} :
    s ∈ rests t ↔ ∃ value, value ≠ [] ∧ '/' ∉ value ∧ t = value ++ s := by
  induction t with
  | nil => simp [rests]
  | cons c t ih =>
    unfold rests
    split
    · rename_i hc
      subst hc
      refine ⟨nofun, ?_⟩
      rintro ⟨value, hne, hv, h⟩
      obtain ⟨d, value, rfl⟩ := List.exists_cons_of_ne_nil hne
      cases h
      simp at hv
    · rename_i hc
      rw [List.mem_cons, ih]
      constructor
      · rintro (rfl | ⟨value, hne, hv, rfl⟩)
        · exact ⟨[c], by simp, by simpa using Ne.symm hc, rfl⟩
        · exact ⟨c :: value, by simp, by simpa using ⟨Ne.symm hc, hv⟩, rfl⟩
      · rintro ⟨value, hne, hv, h⟩
        obtain ⟨d, value, rfl⟩ := List.exists_cons_of_ne_nil hne
        obtain ⟨rfl, rfl⟩ := List.cons.inj h
        cases value with
        | nil => exact .inl rfl
        | cons d value => exact .inr ⟨d :: value, by simp, fun h => hv (.tail _ h), rfl⟩

theorem matchesPieces_iff {ps : List Piece} {s : List Char} :
    matchesPieces ps s = true ↔ Instantiates ps s := by
  induction ps generalizing s with
  | nil =>
    rw [matchesPieces, List.isEmpty_iff]
    constructor
    · rintro rfl
      exact .nil
    · rintro ⟨⟩
      rfl
  | cons p ps ih =>
    cases p with
    | literal text =>
      rw [matchesPieces, Bool.and_eq_true, List.isPrefixOf_iff_prefix, ih]
      constructor
      · rintro ⟨⟨rest, rfl⟩, h⟩
        rw [List.drop_left] at h
        exact .literal h
      · rintro ⟨⟩
        rename_i rest h
        exact ⟨⟨rest, rfl⟩, by rwa [List.drop_left]⟩
    | parameter =>
      rw [matchesPieces, List.any_eq_true]
      constructor
      · rintro ⟨rest, hr, h⟩
        obtain ⟨value, hne, hv, rfl⟩ := mem_rests.mp hr
        exact .parameter hne hv (ih.mp h)
      · rintro ⟨⟩
        rename_i value rest hne hv h
        exact ⟨rest, mem_rests.mpr ⟨value, hne, hv, rfl⟩, ih.mpr h⟩

theorem isInstance_iff {declared path : String} :
    isInstance declared path = true ↔ Instantiates (pieces declared) path.toList :=
  matchesPieces_iff

/-! ### Pieces -/

theorem piecesAfter_nil (text : List Char) : piecesAfter text [] = [ofText text] := by
  rw [piecesAfter]

theorem piecesAfter_parameter {s tail : List Char} (h : afterParameter? s = some tail)
    (text : List Char) :
    piecesAfter text ('{' :: s) = ofText text :: .parameter :: piecesAfter [] tail := by
  rw [piecesAfter, if_pos rfl]
  split
  · rename_i found hf
    cases h.symm.trans hf
    rfl
  · rename_i hf
    cases h.symm.trans hf

theorem piecesAfter_text {c : Char} (h : c ≠ '{') (s text : List Char) :
    piecesAfter text (c :: s) = piecesAfter (text ++ [c]) s := by
  rw [piecesAfter, if_neg h]

/-! ### Paths without braces -/

theorem piecesAfter_of_not_mem {s : List Char} (h : '{' ∉ s) (text : List Char) :
    piecesAfter text s = [ofText (text ++ s)] := by
  induction s generalizing text with
  | nil => rw [piecesAfter_nil, List.append_nil]
  | cons c s ih =>
    rw [List.mem_cons, not_or] at h
    rw [piecesAfter_text (Ne.symm h.1), ih h.2, List.append_assoc]
    rfl

/-- A path without braces is a single text that stands for itself. -/
theorem pieces_of_not_mem {p : String} (h : '{' ∉ p.toList) : pieces p = [.literal p.toList] := by
  have hhead : p.toList.head? ≠ some '{' := fun hc => h (List.mem_of_mem_head? hc)
  rw [pieces, piecesAfter_of_not_mem h, List.nil_append, ofText, if_neg hhead]

theorem isInstance_of_not_mem {p path : String} (h : '{' ∉ p.toList) :
    isInstance p path = true ↔ path = p := by
  rw [isInstance, pieces_of_not_mem h]
  simp only [matchesPieces, Bool.and_eq_true, List.isPrefixOf_iff_prefix, List.isEmpty_iff]
  constructor
  · rintro ⟨⟨rest, hr⟩, hd⟩
    rw [← hr, List.drop_left] at hd
    rw [← String.toList_inj, ← hr, hd, List.append_nil]
  · rintro rfl
    exact ⟨List.prefix_refl _, List.drop_length⟩

/-- Only the empty path is an instance of the empty one. -/
theorem ne_empty_of_isInstance {p path : String} (h : isInstance p path = true)
    (hpath : path ≠ "") : p ≠ "" := by
  rintro rfl
  exact hpath ((isInstance_of_not_mem (by simp)).mp h)

theorem braces_eq_zero {p : String} : braces p = 0 ↔ '{' ∉ p.toList := List.count_eq_zero

/-! ### Ranking -/

/-- The place of a declared path in the order of trying: fewer braces, then more characters, then
the order of code points. -/
def rank (p : String) : ℕ ×ₗ (ℕᵒᵈ ×ₗ List Char) :=
  toLex (braces p, toLex (OrderDual.toDual p.length, p.toList))

theorem rank_injective : Function.Injective rank := fun _ _ h =>
  String.toList_inj.mp (congrArg (fun r => (ofLex (ofLex r).2).2) h)

theorem isBefore_iff {p q : String} : isBefore p q = true ↔ rank p < rank q := by
  have hlt : p < q ↔ p.toList < q.toList := Iff.rfl
  simp [isBefore, rank, Prod.Lex.toLex_lt_toLex, hlt]

theorem not_isBefore_iff {p q : String} : (!isBefore q p) = true ↔ rank p ≤ rank q := by
  rw [Bool.not_eq_true', ← Bool.not_eq_true, isBefore_iff, not_lt]

/-- A path without braces comes before one with braces. -/
theorem rank_lt_of_mem {p q : String} (hp : '{' ∉ p.toList) (hq : '{' ∈ q.toList) :
    rank p < rank q := by
  have h : braces p < braces q := by
    rw [braces_eq_zero.mpr hp]
    exact List.count_pos_iff.mpr hq
  exact Prod.Lex.toLex_lt_toLex.mpr (.inl h)

theorem mem_ranked {paths : List String} {p : String} : p ∈ ranked paths ↔ p ∈ paths := by
  rw [ranked, List.mem_mergeSort, List.mem_eraseDups]

theorem pairwise_ranked (paths : List String) :
    (ranked paths).Pairwise fun p q => rank p ≤ rank q := by
  have h : (ranked paths).Pairwise fun p q => (!isBefore q p) = true := List.pairwise_mergeSort
    (fun p q r hpq hqr => by
      rw [not_isBefore_iff] at *
      exact hpq.trans hqr)
    (fun p q => by
      rw [Bool.or_eq_true, not_isBefore_iff, not_isBefore_iff]
      exact le_total _ _) paths.eraseDups
  exact h.imp not_isBefore_iff.mp

/-- The first of the ranked paths with a property has the least rank of all that have it. -/
theorem rank_le_of_find? {paths : List String} {f : String → Bool} {p q : String}
    (h : (ranked paths).find? f = some p) (hq : q ∈ paths) (hf : f q = true) :
    rank p ≤ rank q := by
  obtain ⟨-, before, after, heq, hb⟩ := List.find?_eq_some_iff_append.mp h
  have hmem : q ∈ before ++ p :: after := heq ▸ mem_ranked.mpr hq
  have hsorted := pairwise_ranked paths
  rw [heq, List.pairwise_append] at hsorted
  rcases List.mem_append.mp hmem with hq | hq
  · simpa [hf] using hb q hq
  · rcases List.mem_cons.mp hq with rfl | hq
    · exact le_refl _
    · exact List.rel_of_pairwise_cons hsorted.2.1 hq

theorem find?_ranked_eq_some {paths : List String} {f : String → Bool} {p : String} :
    (ranked paths).find? f = some p ↔
      p ∈ paths ∧ f p = true ∧ ∀ q ∈ paths, f q = true → rank p ≤ rank q := by
  constructor
  · intro h
    exact ⟨mem_ranked.mp (List.mem_of_find?_eq_some h), List.find?_some h,
      fun q hq hf => rank_le_of_find? h hq hf⟩
  · rintro ⟨hp, hf, hfirst⟩
    cases h : (ranked paths).find? f with
    | none => exact absurd hf (by simpa using List.find?_eq_none.mp h p (mem_ranked.mpr hp))
    | some q =>
      have hle := hfirst q (mem_ranked.mp (List.mem_of_find?_eq_some h)) (List.find?_some h)
      rw [rank_injective (le_antisymm hle (rank_le_of_find? h hp hf))]

theorem find?_ranked_eq_none {paths : List String} {f : String → Bool} :
    (ranked paths).find? f = none ↔ ∀ q ∈ paths, f q = false := by
  simp [List.find?_eq_none, mem_ranked]

end RequestAuth.Path
