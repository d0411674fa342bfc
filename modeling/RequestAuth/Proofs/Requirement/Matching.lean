import RequestAuth.Proofs.Requirement.Resolution
import RequestAuth.Proofs.Template

/-!
# The declared path that is found

Of the declared paths that a path is an instance of, the one with the least rank is found: with the
fewest braces, of those the longest, and of those the first in the order of code points. When a
method is given, in any case, the paths count that are declared with it. Which one is found is a
matter of the operations alone, and not of the order in which they are given.
-/

namespace RequestAuth.Table

variable {t : Table} {p m path : String} {method : Option String}

/-- A path is declared with a method, in any case, or with some method if none is given. -/
def IsDeclared (t : Table) (method : Option String) (p : String) : Prop :=
  ∃ o ∈ t.operations, o.1.path = p ∧ ∀ m ∈ method, o.1.method = upperText m

/-- The paths that are tried are those that are declared. -/
theorem isDeclared_iff (hm : method ≠ some "") :
    t.IsDeclared method p ↔
      p ∈ t.operations.map (fun o => o.1.path) ∧ t.declares (givenMethod method) p = true := by
  cases method with
  | none => simp [IsDeclared, givenMethod, declares]
  | some m =>
    have hgiven : givenMethod (some m) = some (upperText m) :=
      givenMethod_of_ne fun h => hm (congrArg some h)
    rw [hgiven]
    constructor
    · rintro ⟨o, ho, hpath, hmethod⟩
      have hkey : o.1 = ⟨p, upperText m⟩ := by
        rw [← hpath, ← hmethod m rfl]
      have hdeclares : t.declares (some (upperText m)) p = true :=
        List.any_eq_true.mpr ⟨o, ho, beq_iff_eq.mpr hkey⟩
      exact ⟨mem_paths_of_declares hdeclares, hdeclares⟩
    · rintro ⟨-, hdeclares⟩
      obtain ⟨o, ho, hkey⟩ := List.any_eq_true.mp hdeclares
      have hkey := beq_iff_eq.mp hkey
      refine ⟨o, ho, by rw [hkey], fun m' hm' => ?_⟩
      rw [hkey, Option.some.inj hm']

/-! ### Tables built from entries -/

section Declarations

variable {declarations : List Declaration} {default : Value}

/-- An operation is in a table when an entry declares it. -/
theorem exists_mem_operations (h : ofDeclarations declarations default = .ok t) :
    (∃ alternatives, (⟨p, m⟩, alternatives) ∈ t.operations) ↔
      ∃ d ∈ declarations, d.path = .text p ∧ ∃ s, d.method = .text s ∧ upperText s = m := by
  obtain ⟨⟨listed, hlisted, hread⟩, -⟩ := ofDeclarations_eq_ok h
  have hkey := isExact_operation p m
  have hoperation : IsExact (Operation.mk p m) := .of_lawful _
  have hlookup : t.operations.lookup ⟨p, m⟩ = listed.reverse.lookup (.text p, m) := by
    rw [lookup_of_mapM_readOperation hread, lookup_ofEntries hkey]
  constructor
  · rintro ⟨alternatives, hmem⟩
    obtain ⟨found, hfound⟩ := Option.isSome_iff_exists.mp (isSome_lookup hoperation hmem)
    rw [hlookup] at hfound
    obtain ⟨d, hd, hentry⟩ := (mem_of_mapM hlisted).mp (List.mem_reverse.mp (mem_of_lookup hkey hfound))
    obtain ⟨s, hs, he, -⟩ := Declaration.read_eq_ok_iff.mp hentry
    obtain ⟨hpath, hmethod⟩ := Prod.mk.inj he
    exact ⟨d, hd, hpath.symm, s, hs, hmethod.symm⟩
  · rintro ⟨d, hd, hpath, s, hs, rfl⟩
    obtain ⟨e, he, hentry⟩ := exists_mem_of_mapM hlisted hd
    obtain ⟨s', hs', hfirst, -⟩ := Declaration.read_eq_ok_iff.mp hentry
    obtain rfl : s = s' := Value.text.inj (hs.symm.trans hs')
    rw [hpath] at hfirst
    have hmem : ((.text p, upperText s), e.2) ∈ listed.reverse := by
      rw [← hfirst]
      exact List.mem_reverse.mpr he
    obtain ⟨found, hfound⟩ := Option.isSome_iff_exists.mp (isSome_lookup hkey hmem)
    exact ⟨found, mem_of_lookup hoperation (hlookup.trans hfound)⟩

theorem isDeclared_ofDeclarations (h : ofDeclarations declarations default = .ok t) :
    t.IsDeclared method p ↔ ∃ d ∈ declarations, d.path = .text p ∧
      ∃ s, d.method = .text s ∧ ∀ m ∈ method, upperText s = upperText m := by
  constructor
  · rintro ⟨⟨⟨q, m⟩, alternatives⟩, ho, rfl, hmethod⟩
    obtain ⟨d, hd, hpath, s, hs, rfl⟩ := (exists_mem_operations h).mp ⟨alternatives, ho⟩
    exact ⟨d, hd, hpath, s, hs, hmethod⟩
  · rintro ⟨d, hd, hpath, s, hs, hmethod⟩
    obtain ⟨alternatives, ho⟩ := (exists_mem_operations h).mpr ⟨d, hd, hpath, s, hs, rfl⟩
    exact ⟨_, ho, rfl, hmethod⟩

end Declarations

/-! ### What is found -/

theorem matchPath_eq_some_iff (hm : method ≠ some "") :
    t.matchPath path method = some p ↔
      t.IsDeclared method p ∧ Path.IsInstanceOf path p ∧
        ∀ q, t.IsDeclared method q → Path.IsInstanceOf path q → Path.rank p ≤ Path.rank q := by
  unfold matchPath paths
  rw [Path.find?_ranked_eq_some]
  simp only [Bool.and_eq_true, isDeclared_iff hm, Path.isInstance_iff_isInstanceOf]
  constructor
  · rintro ⟨hmem, ⟨hdeclares, hinstance⟩, hleast⟩
    exact ⟨⟨hmem, hdeclares⟩, hinstance, fun q hq hqi => hleast q hq.1 ⟨hq.2, hqi⟩⟩
  · rintro ⟨⟨hmem, hdeclares⟩, hinstance, hleast⟩
    exact ⟨hmem, ⟨hdeclares, hinstance⟩, fun q hq hqi => hleast q ⟨hq, hqi.1⟩ hqi.2⟩

theorem matchPath_eq_none_iff (hm : method ≠ some "") :
    t.matchPath path method = none ↔
      ∀ p, t.IsDeclared method p → ¬ Path.IsInstanceOf path p := by
  unfold matchPath paths
  rw [Path.find?_ranked_eq_none]
  simp only [isDeclared_iff hm, ← Path.isInstance_iff_isInstanceOf]
  constructor
  · rintro h p ⟨hmem, hdeclares⟩ hinstance
    have hno := h p hmem
    rw [hdeclares, hinstance] at hno
    cases hno
  · intro h p hmem
    rw [Bool.eq_false_iff]
    intro hboth
    obtain ⟨hdeclares, hinstance⟩ := (Bool.and_eq_true _ _).mp hboth
    exact h p ⟨hmem, hdeclares⟩ hinstance

/-- Tables that declare the same paths find the same. -/
theorem matchPath_congr {t' : Table} (hm : method ≠ some "")
    (h : ∀ p, t'.IsDeclared method p ↔ t.IsDeclared method p) (path : String) :
    t'.matchPath path method = t.matchPath path method := by
  refine Option.ext fun p => ?_
  rw [matchPath_eq_some_iff hm, matchPath_eq_some_iff hm]
  simp only [h]

/-- **The least of the declared paths is found that a path is an instance of.** There is none if it
is an instance of no declared one, and the order does not matter in which operations are given. -/
theorem least_instance_found (t : Table) (path : String) {method : Option String}
    (hm : method ≠ some "") :
    (∀ p, t.matchPath path method = some p ↔
      t.IsDeclared method p ∧ Path.IsInstanceOf path p ∧
        ∀ q, t.IsDeclared method q → Path.IsInstanceOf path q → Path.rank p ≤ Path.rank q) ∧
    (t.matchPath path method = none ↔
      ∀ p, t.IsDeclared method p → ¬ Path.IsInstanceOf path p) ∧
    ∀ declarations declarations' default default' t', declarations'.Perm declarations →
      ofDeclarations declarations default = .ok t →
      ofDeclarations declarations' default' = .ok t' →
        t'.matchPath path method = t.matchPath path method := by
  refine ⟨fun p => matchPath_eq_some_iff hm, matchPath_eq_none_iff hm, ?_⟩
  intro declarations declarations' default default' t' hperm h h'
  refine matchPath_congr hm (fun p => ?_) path
  rw [isDeclared_ofDeclarations h, isDeclared_ofDeclarations h']
  simp only [hperm.mem_iff]

/-! ### Two templates and a literal path -/

/-- A table with two templates for one method and a literal path for another. -/
def files : Table :=
  ⟨[(⟨"/files/{id}", "GET"⟩, []), (⟨"/files/{name}.json", "GET"⟩, []),
      (⟨"/files/mine.json", "PUT"⟩, [])], []⟩

/-- Both templates stand for the literal path. The longer one is found, and not the path itself,
which is declared with another method. -/
theorem longer_template_found :
    (some "get" ≠ some "") ∧
      files.matchPath "/files/mine.json" (some "get") = some "/files/{name}.json" := by
  have hm : some "get" ≠ some "" := by decide
  refine ⟨hm, ((least_instance_found files "/files/mine.json" hm).1 _).mpr ⟨?declared, ?stands,
    ?least⟩⟩
  case declared =>
    exact ⟨(⟨"/files/{name}.json", "GET"⟩, []), by simp [files], rfl, by decide⟩
  case stands =>
    have hparam : Path.IsParameter ('{' :: ("name".toList ++ ['}'])) :=
      Path.isParameter_of_all (by decide)
    have hfront : Path.IsUncut "/files/".toList := Path.isUncut_of_not_mem (by decide)
    have hback : Path.IsUncut ".json".toList := Path.isUncut_of_not_mem (by decide)
    refine ⟨_, ["/files/".toList, "mine".toList, ".json".toList],
      .parameter hfront hparam (.uncut hback), ?_, by decide⟩
    refine .cons ?_ (.cons ?_ (.cons ?_ .nil)) <;> unfold Path.StandsFor <;> decide
  case least =>
    rintro q ⟨o, ho, rfl, hmethod⟩ -
    have hget : o.1.method = "GET" := hmethod "get" rfl
    simp only [files, List.mem_cons, List.not_mem_nil, or_false] at ho
    obtain rfl | rfl | rfl := ho
    · exact Path.not_isBefore_iff.mp (by decide)
    · exact le_rfl
    · exact absurd hget (by decide)

end RequestAuth.Table
