import RequestAuth.Proofs.Requirement.Document

/-!
# What an operation resolves to

An operation resolves to the alternatives that the document lists for it under `security`, and to
those that the document lists for all operations if it lists none. An empty list is a list, and only
a missing or null one counts as none. `IsListOf` says which alternatives a value lists, and
`ListsOwn` when an operation has a list of its own, both without the functions that read a document.

In a table that is built from single entries, the last entry for a path and a method, in whatever
case, counts.
-/

namespace RequestAuth

/-! ### What a value lists -/

/-- The scopes that a value stands for: its items, or none if it counts as false, as null does. -/
def ScopesOf (v : Value) (scopes : List Value) : Prop :=
  if v.isTrue then v.items = .ok scopes else scopes = []

/-- An alternative is that of a mapping: the names of schemes in its order, each with its scopes. -/
def Requirement.IsOf (v : Value) (alternative : Requirement) : Prop :=
  ∃ entries, v.entries = .ok entries ∧
    List.Forall₂ (fun e s => s.1 = e.1 ∧ ScopesOf e.2 s.2) entries alternative

/-- Alternatives are those of the items of a value, one by one and in order. -/
def IsListOf (v : Value) (alternatives : List Requirement) : Prop :=
  ∃ items, v.items = .ok items ∧ List.Forall₂ Requirement.IsOf items alternatives

theorem readScopes_eq_ok {v : Value} {scopes : List Value} :
    readScopes v = .ok scopes ↔ ScopesOf v scopes := by
  unfold readScopes ScopesOf
  split
  · rfl
  · exact ⟨fun h => (Except.ok.inj h).symm, fun h => congrArg _ h.symm⟩

theorem readEntry_eq_ok {e : Value × Value} {s : Value × List Value} :
    (do return (e.1, ← readScopes e.2) : Except Fault (Value × List Value)) = .ok s ↔
      s.1 = e.1 ∧ ScopesOf e.2 s.2 := by
  obtain ⟨name, scopes⟩ := s
  rw [bind_eq_ok]
  constructor
  · rintro ⟨scopes, hs, h⟩
    cases h
    exact ⟨rfl, readScopes_eq_ok.mp hs⟩
  · rintro ⟨rfl, hs⟩
    exact ⟨scopes, readScopes_eq_ok.mpr hs, rfl⟩

theorem Requirement.read_eq_ok {v : Value} {alternative : Requirement} :
    Requirement.read v = .ok alternative ↔ Requirement.IsOf v alternative := by
  unfold Requirement.read Requirement.IsOf
  simp only [bind_eq_ok (x := v.entries), mapM_eq_ok, readEntry_eq_ok]

/-- The alternatives that are read are those that a value lists. -/
theorem readAlternatives_eq_ok {v : Value} {alternatives : List Requirement} :
    readAlternatives v = .ok alternatives ↔ IsListOf v alternatives := by
  unfold readAlternatives IsListOf
  simp only [bind_eq_ok, mapM_eq_ok, Requirement.read_eq_ok]

theorem IsListOf.eq_nil {v : Value} {alternatives : List Requirement}
    (h : IsListOf v alternatives) (hv : v.items = .ok []) : alternatives = [] := by
  obtain ⟨items, hi, hf⟩ := h
  cases hi.symm.trans hv
  exact List.forall₂_nil_left_iff.mp hf

/-! ### Operations of a document -/

/-- A document lists alternatives for an operation, whose method may be in any case. -/
def ListsOwn (document : Value) (path method : String) (security : Value) : Prop :=
  upperText method ∈ methods ∧ Lists document path (upperText method) security

namespace Table

variable {t : Table} {path method : String}

theorem resolve_of_lookup_none (hp : path ≠ "") (hm : method ≠ "")
    (h : t.operations.lookup ⟨path, upperText method⟩ = none) :
    t.resolve (some path) (some method) = .ok t.default := by
  rw [resolve_of_ne hp hm, get?, h, Option.getD_none]

section Document

variable {document : Value} (hd : DistinctPaths document) (h : ofDocument document = .ok t)
  (hp : path ≠ "") (hm : method ≠ "")

include hd h hp hm

/-- An operation resolves to the list of its own. -/
theorem resolve_of_listsOwn {security : Value} (hs : ListsOwn document path method security) :
    ∃ alternatives, IsListOf security alternatives ∧
      t.resolve (some path) (some method) = .ok alternatives := by
  obtain ⟨hmem, hlists⟩ := hs
  obtain ⟨alternatives, ha⟩ := exists_alternatives h hmem hlists
  have hlookup : t.operations.lookup ⟨path, upperText method⟩ = some alternatives :=
    (lookup_ofDocument hd h).mpr ⟨hmem, security, hlists, ha⟩
  exact ⟨alternatives, readAlternatives_eq_ok.mp ha, resolve_of_lookup hp hm hlookup⟩

/-- An operation without a list of its own resolves to the default. -/
theorem resolve_of_not_listsOwn (hs : ∀ security, ¬ ListsOwn document path method security) :
    t.resolve (some path) (some method) = .ok t.default := by
  refine resolve_of_lookup_none hp hm ?_
  cases hl : t.operations.lookup ⟨path, upperText method⟩ with
  | none => rfl
  | some alternatives =>
    obtain ⟨hmem, security, hlists, -⟩ := (lookup_ofDocument hd h).mp hl
    exact absurd ⟨hmem, hlists⟩ (hs security)

end Document

end Table

/-! ### Tables built from entries -/

/-- An entry of a table is one for an operation, whose method may be in any case. -/
def Declaration.IsFor (path method : String) (d : Declaration) : Prop :=
  d.path = .text path ∧ ∃ m, d.method = .text m ∧ upperText m = upperText method

namespace Table

variable {t : Table} {path method : String}

/-- An entry is found under the path and the method in capitals of an operation when it is one for
the operation. -/
theorem key_of_read {d : Declaration} {e : (Value × String) × List Requirement}
    (h : d.read = .ok e) :
    ((Value.text path, upperText method) == e.1) = true ↔ d.IsFor path method := by
  have hkey := isExact_operation path (upperText method)
  obtain ⟨m, hm, he, -⟩ := Declaration.read_eq_ok_iff.mp h
  constructor
  · intro hb
    obtain ⟨hpath, hmethod⟩ := Prod.mk.inj (he.symm.trans (hkey.right _ hb))
    exact ⟨hpath, m, hm, hmethod⟩
  · rintro ⟨hpath, m', hm', hmethod⟩
    cases hm.symm.trans hm'
    rw [he, hpath, hmethod]
    exact hkey.refl

theorem lookup_of_none_for {ds : List Declaration} {es : List ((Value × String) × List Requirement)}
    (h : List.Forall₂ (fun d e => d.read = .ok e) ds es) (hno : ∀ d ∈ ds, ¬ d.IsFor path method) :
    es.lookup (.text path, upperText method) = none := by
  induction h with
  | nil => rfl
  | @cons d e ds es hd _ ih =>
    have hkey : ((Value.text path, upperText method) == e.1) = false := by
      rw [Bool.eq_false_iff, Ne, key_of_read hd]
      exact hno d (.head _)
    rw [List.lookup_cons, hkey]
    exact ih fun d hd => hno d (.tail _ hd)

/-- The first entry for an operation is found. -/
theorem lookup_of_first_for {before after : List Declaration} {d : Declaration}
    {es : List ((Value × String) × List Requirement)}
    (h : List.Forall₂ (fun d e => d.read = .ok e) (before ++ d :: after) es)
    (hd : d.IsFor path method) (hno : ∀ d' ∈ before, ¬ d'.IsFor path method) :
    ∃ alternatives, readAlternatives d.alternatives = .ok alternatives ∧
      es.lookup (.text path, upperText method) = some alternatives := by
  induction before generalizing es with
  | nil =>
    obtain ⟨e, es, he, -, rfl⟩ := List.forall₂_cons_left_iff.mp h
    obtain ⟨m, -, -, ha⟩ := Declaration.read_eq_ok_iff.mp he
    exact ⟨e.2, ha, by rw [List.lookup_cons, (key_of_read he).mpr hd]⟩
  | cons d' before ih =>
    obtain ⟨e, es, he, hes, rfl⟩ := List.forall₂_cons_left_iff.mp h
    have hkey : ((Value.text path, upperText method) == e.1) = false := by
      rw [Bool.eq_false_iff, Ne, key_of_read he]
      exact hno d' (.head _)
    rw [List.lookup_cons, hkey]
    exact ih hes fun d hd => hno d (.tail _ hd)

section Declarations

variable {declarations : List Declaration} {default : Value}
  (h : ofDeclarations declarations default = .ok t)

include h

/-- The entries of a table from the last to the first, and where an operation is found among
them. -/
theorem exists_reversed (path method : String) :
    ∃ es, List.Forall₂ (fun d e => d.read = .ok e) declarations.reverse es ∧
      t.operations.lookup ⟨path, upperText method⟩ = es.lookup (.text path, upperText method) := by
  obtain ⟨⟨listed, hl, ho⟩, -⟩ := ofDeclarations_eq_ok h
  have hkey := isExact_operation path (upperText method)
  refine ⟨listed.reverse, List.forall₂_reverse_iff.mpr (mapM_eq_ok.mp hl), ?_⟩
  rw [lookup_of_mapM_readOperation ho, lookup_ofEntries hkey]

variable (hp : path ≠ "") (hm : method ≠ "")

include hp hm

/-- The last entry for an operation counts. -/
theorem resolve_of_last_for {before after : List Declaration} {d : Declaration}
    (hsplit : declarations = before ++ d :: after) (hd : d.IsFor path method)
    (hno : ∀ d' ∈ after, ¬ d'.IsFor path method) :
    ∃ alternatives, IsListOf d.alternatives alternatives ∧
      t.resolve (some path) (some method) = .ok alternatives := by
  obtain ⟨es, hes, hlookup⟩ := exists_reversed h path method
  have hreverse : declarations.reverse = after.reverse ++ d :: before.reverse := by
    simp [hsplit]
  rw [hreverse] at hes
  obtain ⟨alternatives, ha, hfound⟩ :=
    lookup_of_first_for hes hd fun d' hd' => hno d' (List.mem_reverse.mp hd')
  exact ⟨alternatives, readAlternatives_eq_ok.mp ha,
    resolve_of_lookup hp hm (hlookup.trans hfound)⟩

theorem resolve_of_none_for (hno : ∀ d ∈ declarations, ¬ d.IsFor path method) :
    t.resolve (some path) (some method) = .ok t.default := by
  obtain ⟨es, hes, hlookup⟩ := exists_reversed h path method
  refine resolve_of_lookup_none hp hm (hlookup.trans ?_)
  exact lookup_of_none_for hes fun d hd => hno d (List.mem_reverse.mp hd)

end Declarations

/-- **An operation resolves to its own alternatives, or to the default if it lists none.** In the
table of a document its own are those of the list under `security`, also if that is empty, and the
default is the list of the document, empty if there is none. In a table that is built from entries
the last one for the path and the method counts. -/
theorem resolves_to_own_or_default :
    (∀ document t, DistinctPaths document → ofDocument document = .ok t →
      (∃ list, document.member "security" = .ok list ∧
        IsListOf (list.orElse (.list [])) t.default ∧ (list = .null → t.default = [])) ∧
      ∀ path method, path ≠ "" → method ≠ "" →
        (∀ security, ListsOwn document path method security →
          ∃ alternatives, IsListOf security alternatives ∧
            (security.items = .ok [] → alternatives = []) ∧
            t.resolve (some path) (some method) = .ok alternatives) ∧
        ((∀ security, ¬ ListsOwn document path method security) →
          t.resolve (some path) (some method) = .ok t.default)) ∧
    ∀ declarations default t, ofDeclarations declarations default = .ok t →
      IsListOf (default.orElse (.list [])) t.default ∧
      ∀ path method, path ≠ "" → method ≠ "" →
        (∀ before d after, declarations = before ++ d :: after → d.IsFor path method →
          (∀ d' ∈ after, ¬ d'.IsFor path method) →
          ∃ alternatives, IsListOf d.alternatives alternatives ∧
            t.resolve (some path) (some method) = .ok alternatives) ∧
        ((∀ d ∈ declarations, ¬ d.IsFor path method) →
          t.resolve (some path) (some method) = .ok t.default) := by
  refine ⟨fun document t hd h => ⟨?_, fun path method hp hm => ⟨fun security hs => ?_, ?_⟩⟩,
    fun declarations default t h => ⟨?_, fun path method hp hm => ⟨?_, ?_⟩⟩⟩
  · obtain ⟨-, list, hlist, hread⟩ := ofDocument_eq_ok h
    have hdefault := readAlternatives_eq_ok.mp hread
    refine ⟨list, hlist, hdefault, ?_⟩
    rintro rfl
    exact hdefault.eq_nil rfl
  · obtain ⟨alternatives, ha, hr⟩ := resolve_of_listsOwn hd h hp hm hs
    exact ⟨alternatives, ha, ha.eq_nil, hr⟩
  · exact resolve_of_not_listsOwn hd h hp hm
  · exact readAlternatives_eq_ok.mp (ofDeclarations_eq_ok h).2
  · exact fun before d after => resolve_of_last_for h hp hm
  · exact resolve_of_none_for h hp hm

/-! ### An empty list, a null one and an entry that is repeated -/

/-- A document whose operations have an empty list, one with null for scopes, and none. -/
def shop : Value :=
  .map [(.text "paths", .map [
      (.text "/open", .map [(.text "get", .map [(.text "security", .list [])])]),
      (.text "/items", .map [(.text "get", .map [(.text "security", .list [
        .map [(.text "key", .null), (.text "oauth", .list [.text "read"])]])])]),
      (.text "/health", .map [(.text "get", .map [(.text "security", .null)])])]),
    (.text "security", .list [.map [(.text "basic", .list [])]])]

/-- The table of the document. -/
def shopTable : Table :=
  ⟨[(⟨"/open", "GET"⟩, []),
      (⟨"/items", "GET"⟩, [[(.text "key", []), (.text "oauth", [.text "read"])]])],
    [[(.text "basic", [])]]⟩

/-- Two entries for one operation. -/
def repeated : List Declaration :=
  [⟨.text "/items", .text "get", .list []⟩, ⟨.text "/items", .text "GET", .list [.map []]⟩]

theorem hasPaths_shop {entries : List (Value × Value)} (h : HasPaths shop entries) :
    entries = [
      (.text "/open", .map [(.text "get", .map [(.text "security", .list [])])]),
      (.text "/items", .map [(.text "get", .map [(.text "security", .list [
        .map [(.text "key", .null), (.text "oauth", .list [.text "read"])]])])]),
      (.text "/health", .map [(.text "get", .map [(.text "security", .null)])])] :=
  h.unique ⟨_, rfl, rfl⟩

theorem distinctPaths_shop : DistinctPaths shop := by
  intro entries h
  rw [hasPaths_shop h]
  simp [BEq.beq, Value.same]

theorem not_listsOwn_health (security : Value) : ¬ ListsOwn shop "/health" "get" security := by
  rintro ⟨-, operation, ⟨entries, item, he, hmem, -, ho, -⟩, hs, hne⟩
  rw [hasPaths_shop he] at hmem
  simp only [List.mem_cons, Prod.mk.injEq, Value.text.injEq, List.not_mem_nil, or_false] at hmem
  rcases hmem with ⟨h, -⟩ | ⟨h, -⟩ | ⟨-, rfl⟩
  · exact absurd h (by decide)
  · exact absurd h (by decide)
  · cases ho
    cases hs
    exact hne rfl

/-- The empty list is no default, null stands for no scopes, and the later entry counts. -/
theorem empty_list_is_kept : ofDocument shop = .ok shopTable ∧
    shopTable.resolve (some "/open") (some "GeT") = .ok [] ∧
    shopTable.resolve (some "/items") (some "get") =
      .ok [[(.text "key", []), (.text "oauth", [.text "read"])]] ∧
    shopTable.resolve (some "/health") (some "get") = .ok [[(.text "basic", [])]] ∧
    ∃ t, ofDeclarations repeated .null = .ok t ∧
      t.resolve (some "/items") (some "get") = .ok [[]] := by
  have hdoc : ofDocument shop = .ok shopTable := rfl
  have hshop := (resolves_to_own_or_default.1 shop shopTable distinctPaths_shop hdoc).2
  have hopen : ListsOwn shop "/open" "GeT" (.list []) :=
    ⟨by decide, _, ⟨_, _, ⟨_, rfl, rfl⟩, .head _, rfl, rfl, rfl⟩, rfl, nofun⟩
  have hitems : ListsOwn shop "/items" "get" (.list [
      .map [(.text "key", .null), (.text "oauth", .list [.text "read"])]]) :=
    ⟨by decide, _, ⟨_, _, ⟨_, rfl, rfl⟩, .tail _ (.head _), rfl, rfl, rfl⟩, rfl, nofun⟩
  obtain ⟨none, -, hnone, hopened⟩ :=
    (hshop "/open" "GeT" (by decide) (by decide)).1 _ hopen
  obtain ⟨both, hboth, -, hlisted⟩ :=
    (hshop "/items" "get" (by decide) (by decide)).1 _ hitems
  have hhealth := (hshop "/health" "get" (by decide) (by decide)).2 not_listsOwn_health
  have htwice : ofDeclarations repeated .null = .ok ⟨[(⟨"/items", "GET"⟩, [[]])], []⟩ := rfl
  obtain ⟨later, hlater, hkept⟩ :=
    ((resolves_to_own_or_default.2 repeated .null _ htwice).2 "/items" "get" (by decide)
      (by decide)).1 [_] _ [] rfl ⟨rfl, "GET", rfl, by decide⟩ nofun
  cases hnone rfl
  cases readAlternatives_eq_ok.mpr hboth
  cases readAlternatives_eq_ok.mpr hlater
  exact ⟨hdoc, hopened, hlisted, hhealth, _, htwice, hkept⟩

end Table

end RequestAuth
