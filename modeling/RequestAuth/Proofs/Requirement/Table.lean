import RequestAuth.Requirement
import RequestAuth.Proofs.Entries
import RequestAuth.Proofs.Path

/-!
# Matching and resolving with a table

`matchPath` finds the declared path of least rank that a path is an instance of, among those
declared with the method.
-/

namespace RequestAuth.Table

variable {t : Table} {path p m : String} {method : Option String}

theorem declares_iff :
    t.declares (some m) p = true ↔
      ∃ alternatives, t.operations.lookup ⟨p, m⟩ = some alternatives := by
  have hkey : IsExact (Operation.mk p m) := .of_lawful _
  unfold declares
  simp only [List.any_eq_true, beq_iff_eq]
  constructor
  · rintro ⟨⟨o, alternatives⟩, hmem, rfl⟩
    exact Option.isSome_iff_exists.mp (isSome_lookup hkey hmem)
  · rintro ⟨alternatives, h⟩
    exact ⟨_, mem_of_lookup hkey h, rfl⟩

theorem mem_paths_of_declares (h : t.declares (some m) p = true) :
    p ∈ t.operations.map fun o => o.1.path := by
  obtain ⟨alternatives, ha⟩ := declares_iff.mp h
  exact List.mem_map.mpr ⟨_, mem_of_lookup (.of_lawful _) ha, rfl⟩

theorem givenMethod_of_ne (h : m ≠ "") : givenMethod (some m) = some (upperText m) := by
  simp [givenMethod, Option.filter, h]

theorem isInstance_of_matchPath (h : t.matchPath path method = some p) :
    Path.isInstance p path = true := by
  have := List.find?_some h
  exact ((Bool.and_eq_true _ _).mp this).2

/-- The path that is found has the least rank of those that are declared with the method and that
the path is an instance of. -/
theorem matchPath_eq_some (hm : givenMethod method = some m) :
    t.matchPath path method = some p ↔
      t.declares (some m) p = true ∧ Path.isInstance p path = true ∧
        ∀ q, t.declares (some m) q = true → Path.isInstance q path = true →
          Path.rank p ≤ Path.rank q := by
  unfold matchPath paths
  rw [hm, Path.find?_ranked_eq_some]
  simp only [Bool.and_eq_true]
  constructor
  · rintro ⟨-, ⟨hd, hi⟩, hfirst⟩
    exact ⟨hd, hi, fun q hq hqi => hfirst q (mem_paths_of_declares hq) ⟨hq, hqi⟩⟩
  · rintro ⟨hd, hi, hfirst⟩
    exact ⟨mem_paths_of_declares hd, ⟨hd, hi⟩, fun q _ hq => hfirst q hq.1 hq.2⟩

theorem matchPath_eq_none (hm : givenMethod method = some m) :
    t.matchPath path method = none ↔
      ∀ q, t.declares (some m) q = true → Path.isInstance q path = false := by
  unfold matchPath paths
  rw [hm, Path.find?_ranked_eq_none]
  constructor
  · intro h q hq
    simpa [hq] using h q (mem_paths_of_declares hq)
  · intro h q _
    cases hq : t.declares (some m) q with
    | false => rfl
    | true => exact h q hq

theorem resolve_of_ne (hp : p ≠ "") (hm : m ≠ "") :
    t.resolve (some p) (some m) = .ok ((t.get? p m).getD t.default) := by
  simp [resolve, hp, hm]

theorem ne_empty_of_upperText (h : m ≠ "") {spelling : String} (hs : upperText spelling = m) :
    spelling ≠ "" := by
  rintro rfl
  exact h (hs.symm.trans rfl)

theorem givenMethod_of_upperText (h : m ≠ "") {spelling : String} (hs : upperText spelling = m) :
    givenMethod (some spelling) = some m := by
  rw [givenMethod_of_ne (ne_empty_of_upperText h hs), hs]

/-- When an operation lists alternatives and a path is an instance of it, some path that lists
alternatives for the method is found, however the method is spelled. -/
theorem exists_secured {own : List Requirement} (hm : m ≠ "") (hmem : (⟨p, m⟩, own) ∈ t.operations)
    (hi : Path.isInstance p path = true) :
    ∃ q alternatives, Path.isInstance q path = true ∧
      t.operations.lookup ⟨q, m⟩ = some alternatives ∧
      ∀ spelling, upperText spelling = m → t.matchPath path (some spelling) = some q := by
  have hd : t.declares (some m) p = true := List.any_eq_true.mpr ⟨_, hmem, beq_self_eq_true _⟩
  cases hq : t.paths.find? fun q => t.declares (some m) q && Path.isInstance q path with
  | none =>
    have hno := List.find?_eq_none.mp hq p (Path.mem_ranked.mpr (mem_paths_of_declares hd))
    simp [hd, hi] at hno
  | some q =>
    have hfound := List.find?_some hq
    obtain ⟨hdq, hiq⟩ := (Bool.and_eq_true _ _).mp hfound
    obtain ⟨alternatives, ha⟩ := declares_iff.mp hdq
    refine ⟨q, alternatives, hiq, ha, fun spelling hs => ?_⟩
    rw [matchPath, givenMethod_of_upperText hm hs]
    exact hq

/-- What an operation lists is what it resolves to, even if it is empty. -/
theorem resolve_of_lookup {method : String} {alternatives : List Requirement} (hp : p ≠ "")
    (hm : method ≠ "") (h : t.operations.lookup ⟨p, upperText method⟩ = some alternatives) :
    t.resolve (some p) (some method) = .ok alternatives := by
  rw [resolve_of_ne hp hm, get?, h, Option.getD_some]

end RequestAuth.Table
