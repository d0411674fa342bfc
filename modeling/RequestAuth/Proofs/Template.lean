import RequestAuth.Proofs.Path
import Mathlib.Data.List.TakeWhile
import Mathlib.Data.Nat.Find

/-!
# Templates cut at their parameters

What a declared path stands for, said without the function that reads it: the path is cut at its
parameters (`Splits`), and a path is an instance of it when it has one value for each piece, one
after the other (`IsInstanceOf`). A piece stands for itself, unless it begins with an opening brace:
then it stands for any text with characters and without slashes.

There is one way to cut a path. It is the one that `pieces` finds, since a text in which no parameter
stands holds no brace at which `pieces` would cut, not even when a parameter follows
(`piecesAfter_append`).
-/

namespace RequestAuth.Path

/-! ### Cutting -/

/-- A text is a parameter: a name between braces, without slashes and braces in it. -/
def IsParameter (s : List Char) : Prop :=
  ∃ name, s = '{' :: (name ++ ['}']) ∧ ∀ c ∈ name, c ≠ '/' ∧ c ≠ '{' ∧ c ≠ '}'

/-- No parameter stands in a text. -/
def IsUncut (s : List Char) : Prop := ∀ param, IsParameter param → ¬ param <:+: s

/-- A text is cut at its parameters. The parameters are pieces of their own, and what stands between
them, even if it is nothing, is one as well. -/
inductive Splits : List Char → List (List Char) → Prop where
  /-- There is no parameter to cut at. -/
  | uncut {text : List Char} : IsUncut text → Splits text [text]
  /-- The first parameter is cut out, and what follows is cut in turn. -/
  | parameter {text param rest : List Char} {ps : List (List Char)} : IsUncut text →
    IsParameter param → Splits rest ps → Splits (text ++ (param ++ rest)) (text :: param :: ps)

theorem isUncut_of_not_mem {s : List Char} (h : '{' ∉ s) : IsUncut s := by
  rintro param ⟨name, rfl, -⟩ hin
  exact h (hin.subset (by simp))

theorem IsUncut.of_infix {s t : List Char} (h : IsUncut t) (hs : s <:+: t) : IsUncut s := by
  intro param hparam hin
  exact h param hparam (hin.trans hs)

/-- Every text can be cut. -/
theorem exists_splits (s : List Char) : ∃ ps, Splits s ps := by
  induction hn : s.length using Nat.strong_induction_on generalizing s with
  | _ n ih =>
    by_cases huncut : IsUncut s
    · exact ⟨[s], .uncut huncut⟩
    · -- the cut is made at the first parameter, in front of which none can stand
      have hcut : ∃ k, ∃ text param rest, IsParameter param ∧ s = text ++ (param ++ rest) ∧
          text.length = k := by
        simp only [IsUncut, not_forall, not_not] at huncut
        obtain ⟨param, hparam, text, rest, hs⟩ := huncut
        exact ⟨text.length, text, param, rest, hparam, by rw [← hs, List.append_assoc], rfl⟩
      classical
      obtain ⟨text, param, rest, hparam, hs, hk⟩ := Nat.find_spec hcut
      have htext : IsUncut text := by
        rintro param' hparam' ⟨front, back, hin⟩
        refine Nat.find_min hcut (m := front.length) ?_
          ⟨front, param', back ++ (param ++ rest), hparam', ?_, rfl⟩
        · obtain ⟨name, rfl, -⟩ := hparam'
          rw [← hk, ← hin]
          simp only [List.length_append, List.length_cons]
          omega
        · rw [hs, ← hin]
          simp only [List.append_assoc]
      have hshorter : rest.length < n := by
        obtain ⟨name, rfl, -⟩ := hparam
        rw [← hn, hs]
        simp only [List.length_append, List.length_cons]
        omega
      obtain ⟨ps, hps⟩ := ih rest.length hshorter rest rfl
      rw [hs]
      exact ⟨text :: param :: ps, .parameter htext hparam hps⟩

/-! ### What the function that reads a template does -/

theorem endsName_eq_false {c : Char} : endsName c = false ↔ c ≠ '/' ∧ c ≠ '{' ∧ c ≠ '}' := by
  simp [endsName, and_assoc]

theorem isParameter_of_all {name : List Char} (h : name.all (fun c => !endsName c) = true) :
    IsParameter ('{' :: (name ++ ['}'])) := by
  refine ⟨name, rfl, fun c hc => endsName_eq_false.mp ?_⟩
  simpa using List.all_eq_true.mp h c hc

/-- A parameter ends at the first closing brace, if no slash and no opening brace comes before. -/
theorem afterParameter?_eq_some {s tail : List Char} :
    afterParameter? s = some tail ↔
      ∃ name, s = name ++ '}' :: tail ∧ ∀ c ∈ name, c ≠ '/' ∧ c ≠ '{' ∧ c ≠ '}' := by
  have hstop : endsName '}' = true := by decide
  constructor
  · intro h
    unfold afterParameter? at h
    split at h
    · rename_i rest heq
      cases h
      refine ⟨s.takeWhile fun c => !endsName c, ?_, fun c hc => ?_⟩
      · rw [← heq, List.takeWhile_append_dropWhile]
      · have hname := List.mem_takeWhile_imp hc
        exact endsName_eq_false.mp (by simpa using hname)
    · cases h
  · rintro ⟨name, rfl, hname⟩
    have hall : ∀ c ∈ name, (!endsName c) = true := by
      intro c hc
      simpa using endsName_eq_false.mpr (hname c hc)
    have hdrop : (name ++ '}' :: tail).dropWhile (fun c => !endsName c) = '}' :: tail := by
      rw [List.dropWhile_append_of_pos hall, List.dropWhile_cons_of_neg (by simp [hstop])]
    unfold afterParameter?
    rw [hdrop]
    rfl

theorem piecesAfter_parameter_of_isParameter {param : List Char} (h : IsParameter param)
    (text rest : List Char) :
    piecesAfter text (param ++ rest) = ofText text :: .parameter :: piecesAfter [] rest := by
  obtain ⟨name, rfl, hname⟩ := h
  have hafter : afterParameter? (name ++ '}' :: rest) = some rest :=
    afterParameter?_eq_some.mpr ⟨name, rfl, hname⟩
  have hparam : '{' :: (name ++ ['}']) ++ rest = '{' :: (name ++ '}' :: rest) := by simp
  rw [hparam]
  exact piecesAfter_parameter hafter text

theorem piecesAfter_brace {s : List Char} (h : afterParameter? s = none) (text : List Char) :
    piecesAfter text ('{' :: s) = piecesAfter (text ++ ['{']) s := by
  rw [piecesAfter, if_pos rfl]
  split
  · rename_i found hfound
    rw [h] at hfound
    cases hfound
  · rfl

/-- A brace in a text without parameters does not begin one, whatever follows the text, if it is
nothing or begins with a brace. -/
theorem afterParameter?_append {text more : List Char} (h : IsUncut ('{' :: text))
    (hmore : ∀ c ∈ more.head?, c = '{') : afterParameter? (text ++ more) = none := by
  rw [Option.eq_none_iff_forall_ne_some]
  intro tail hafter
  obtain ⟨name, heq, hname⟩ := afterParameter?_eq_some.mp hafter
  have hclosing : more ≠ '}' :: tail := by
    rintro rfl
    exact absurd (hmore '}' rfl) (by decide)
  -- the parameter would end in the text, since its name cannot hold the brace behind the text
  rcases List.append_eq_append_iff.mp heq with ⟨between, rfl, hbetween⟩ | ⟨between, rfl, hbetween⟩
  · cases between with
    | nil => exact hclosing hbetween
    | cons c between =>
      rw [hbetween] at hmore
      exact (hname c (by simp)).2.1 (hmore c rfl)
  · cases between with
    | nil => exact hclosing hbetween.symm
    | cons c between =>
      obtain ⟨rfl, -⟩ := List.cons.inj hbetween
      refine h ('{' :: (name ++ ['}'])) ⟨name, rfl, hname⟩ ⟨[], between, ?_⟩
      simp

/-- A text without parameters is read to its end. -/
theorem piecesAfter_append {text more : List Char} (h : IsUncut text)
    (hmore : ∀ c ∈ more.head?, c = '{') (read : List Char) :
    piecesAfter read (text ++ more) = piecesAfter (read ++ text) more := by
  induction text generalizing read with
  | nil => rw [List.nil_append, List.append_nil]
  | cons c text ih =>
    have hrest := ih (h.of_infix (List.suffix_cons c text).isInfix) (read ++ [c])
    rw [List.append_assoc, List.singleton_append] at hrest
    rw [List.cons_append, ← hrest]
    by_cases hc : c = '{'
    · subst hc
      exact piecesAfter_brace (afterParameter?_append h hmore) read
    · exact piecesAfter_text hc (text ++ more) read

/-- The pieces that are found are those that the path is cut into. -/
theorem Splits.piecesAfter_eq {s : List Char} {ps : List (List Char)} (h : Splits s ps) :
    piecesAfter [] s = ps.map ofText := by
  induction h with
  | @uncut text huncut =>
    have hread : piecesAfter [] (text ++ []) = piecesAfter ([] ++ text) [] :=
      piecesAfter_append huncut (by simp) []
    rw [List.append_nil, List.nil_append] at hread
    rw [hread, piecesAfter_nil, List.map_singleton]
  | @parameter text param rest ps huncut hparam _ ih =>
    have hbrace : param.head? = some '{' := by
      obtain ⟨name, rfl, -⟩ := hparam
      rfl
    have hmore : ∀ c ∈ (param ++ rest).head?, c = '{' := by
      intro c hc
      rw [List.head?_append, hbrace] at hc
      exact (Option.some.inj hc).symm
    have hpiece : ofText param = .parameter := if_pos hbrace
    rw [piecesAfter_append huncut hmore, List.nil_append,
      piecesAfter_parameter_of_isParameter hparam, ih, List.map_cons, List.map_cons, hpiece]

/-! ### What a template stands for -/

/-- A text stands for itself, or for any text with characters but without slashes when it begins
with an opening brace. -/
def StandsFor (piece value : List Char) : Prop :=
  if piece.head? = some '{' then value ≠ [] ∧ '/' ∉ value else value = piece

/-- A path is an instance of a declared one: it is made up of one value for each piece. -/
def IsInstanceOf (path declared : String) : Prop :=
  ∃ pieces values, Splits declared.toList pieces ∧ List.Forall₂ StandsFor pieces values ∧
    path.toList = values.flatten

theorem instantiates_cons_iff {piece s : List Char} {ps : List Piece} :
    Instantiates (ofText piece :: ps) s ↔
      ∃ value rest, StandsFor piece value ∧ Instantiates ps rest ∧ s = value ++ rest := by
  unfold ofText StandsFor
  split
  · constructor
    · rintro ⟨⟩
      rename_i value rest hne hslash h
      exact ⟨value, rest, ⟨hne, hslash⟩, h, rfl⟩
    · rintro ⟨value, rest, ⟨hne, hslash⟩, h, rfl⟩
      exact .parameter hne hslash h
  · constructor
    · rintro ⟨⟩
      rename_i rest h
      exact ⟨piece, rest, rfl, h, rfl⟩
    · rintro ⟨value, rest, rfl, h, rfl⟩
      exact .literal h

theorem instantiates_map_ofText {ps : List (List Char)} {s : List Char} :
    Instantiates (ps.map ofText) s ↔
      ∃ values, List.Forall₂ StandsFor ps values ∧ s = values.flatten := by
  induction ps generalizing s with
  | nil =>
    constructor
    · rintro ⟨⟩
      exact ⟨[], .nil, rfl⟩
    · rintro ⟨values, ⟨⟩, rfl⟩
      exact .nil
  | cons piece ps ih =>
    rw [List.map_cons, instantiates_cons_iff]
    constructor
    · rintro ⟨value, rest, hvalue, hrest, rfl⟩
      obtain ⟨values, hvalues, rfl⟩ := ih.mp hrest
      exact ⟨value :: values, .cons hvalue hvalues, rfl⟩
    · rintro ⟨values, hvalues, rfl⟩
      cases hvalues with
      | cons hvalue hvalues =>
        rename_i value values
        exact ⟨value, values.flatten, hvalue, ih.mpr ⟨values, hvalues, rfl⟩, rfl⟩

/-- The matcher decides what a template stands for. -/
theorem isInstance_iff_isInstanceOf {declared path : String} :
    isInstance declared path = true ↔ IsInstanceOf path declared := by
  rw [isInstance_iff, pieces]
  constructor
  · intro h
    obtain ⟨ps, hps⟩ := exists_splits declared.toList
    rw [hps.piecesAfter_eq] at h
    obtain ⟨values, hvalues, hpath⟩ := instantiates_map_ofText.mp h
    exact ⟨ps, values, hps, hvalues, hpath⟩
  · rintro ⟨ps, values, hps, hvalues, hpath⟩
    rw [hps.piecesAfter_eq]
    exact instantiates_map_ofText.mpr ⟨values, hvalues, hpath⟩

end RequestAuth.Path
