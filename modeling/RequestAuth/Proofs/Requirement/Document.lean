import RequestAuth.Requirement.Reader
import RequestAuth.Proofs.Requirement.Table
import RequestAuth.Proofs.Results

/-!
# The table of a document

What a document says about its operations, and that its table says the same: the alternatives that
an operation lists are those that the document lists for it under `security`, and an operation
without `security` is not in the table.
-/

namespace RequestAuth

/-! ### What a document says -/

/-- A document has the entries under `paths`. -/
def HasPaths (document : Value) (entries : List (Value × Value)) : Prop :=
  ∃ paths, document.member "paths" = .ok paths ∧ (paths.orElse (.map [])).entries = .ok entries

/-- No path is declared twice, as in every mapping. -/
def DistinctPaths (document : Value) : Prop :=
  ∀ entries, HasPaths document entries → entries.Pairwise fun a b => (a.1 == b.1) = false

/-- A document describes an operation, a path with a method in capitals, by a mapping. -/
def Describes (document : Value) (p m : String) (operation : Value) : Prop :=
  ∃ entries item, HasPaths document entries ∧ (.text p, item) ∈ entries ∧ item.isMap = true ∧
    item.member (lowerText m) = .ok operation ∧ operation.isMap = true

/-- A document lists alternatives for an operation. -/
def Lists (document : Value) (p m : String) (security : Value) : Prop :=
  ∃ operation, Describes document p m operation ∧ operation.member "security" = .ok security ∧
    security ≠ .null

theorem HasPaths.unique {document : Value} {entries entries' : List (Value × Value)}
    (h : HasPaths document entries) (h' : HasPaths document entries') : entries = entries' := by
  obtain ⟨paths, hp, he⟩ := h
  obtain ⟨paths', hp', he'⟩ := h'
  cases hp.symm.trans hp'
  cases he.symm.trans he'
  rfl

/-- Of entries with different keys one stands under a text. -/
theorem eq_of_mem_entries {entries : List (Value × Value)} {p : String} {v w : Value}
    (h : entries.Pairwise fun a b => (a.1 == b.1) = false) (hv : (.text p, v) ∈ entries)
    (hw : (.text p, w) ∈ entries) : v = w := by
  have hp := (isExact_text p).refl
  induction h with
  | nil => cases hv
  | cons hne _ ih =>
    rcases List.mem_cons.mp hv with rfl | hv' <;> rcases List.mem_cons.mp hw with hw' | hw'
    · exact (congrArg Prod.snd hw').symm
    · exact Bool.noConfusion (hp.symm.trans (hne _ hw'))
    · subst hw'
      exact Bool.noConfusion (hp.symm.trans (hne _ hv'))
    · exact ih hv' hw'

theorem Describes.unique {document : Value} (hd : DistinctPaths document) {p m : String}
    {operation operation' : Value} (h : Describes document p m operation)
    (h' : Describes document p m operation') : operation = operation' := by
  obtain ⟨entries, item, he, hi, -, ho, -⟩ := h
  obtain ⟨entries', item', he', hi', -, ho', -⟩ := h'
  cases he.unique he'
  cases eq_of_mem_entries (hd entries he) hi hi'
  cases ho.symm.trans ho'
  rfl

theorem Lists.unique {document : Value} (hd : DistinctPaths document) {p m : String}
    {security security' : Value} (h : Lists document p m security)
    (h' : Lists document p m security') : security = security' := by
  obtain ⟨operation, ho, hs, -⟩ := h
  obtain ⟨operation', ho', hs', -⟩ := h'
  cases ho.unique hd ho'
  cases hs.symm.trans hs'
  rfl

/-! ### Reading declarations -/

theorem upperText_of_mem_methods {m : String} (h : m ∈ methods) : upperText m = m := by
  revert m
  decide

theorem ne_empty_of_mem_methods {m : String} (h : m ∈ methods) : m ≠ "" := by
  rintro rfl
  exact absurd h (by decide)

theorem givenMethod_of_mem_methods {m : String} (h : m ∈ methods) :
    Table.givenMethod (some m) = some m := by
  rw [Table.givenMethod_of_ne (ne_empty_of_mem_methods h), upperText_of_mem_methods h]

/-- An entry of a table is read when its method is a text and its alternatives can be read. -/
theorem Declaration.read_eq_ok_iff {d : Declaration} {e : (Value × String) × List Requirement} :
    d.read = .ok e ↔ ∃ m, d.method = .text m ∧ e.1 = (d.path, upperText m) ∧
      readAlternatives d.alternatives = .ok e.2 := by
  obtain ⟨path, method, listed⟩ := d
  obtain ⟨k, alternatives⟩ := e
  constructor
  · intro h
    cases method with
    | text m =>
      obtain ⟨read, hread, h⟩ := bind_eq_ok.mp h
      cases h
      exact ⟨m, rfl, rfl, hread⟩
    | _ => cases h
  · rintro ⟨m, rfl, rfl, hread⟩
    exact bind_eq_ok.mpr ⟨alternatives, hread, rfl⟩

theorem Declaration.read_eq_ok {path : Value} {m : String} {items : List Value}
    {e : (Value × String) × List Requirement} :
    (Declaration.mk path (.text m) (.list items)).read = .ok e ↔
      e.1 = (path, upperText m) ∧ readAlternatives (.list items) = .ok e.2 := by
  rw [Declaration.read_eq_ok_iff]
  constructor
  · rintro ⟨_, ⟨⟩, h⟩
    exact h
  · exact fun h => ⟨m, rfl, h⟩

/-- Alternatives are read from the items of a value. -/
theorem readAlternatives_list {v : Value} {items : List Value} (h : v.items = .ok items) :
    readAlternatives (.list items) = readAlternatives v := by
  unfold readAlternatives
  rw [h]
  rfl

namespace Table

/-- An operation with `security` is declared with the items of its list. -/
theorem declaration?_of_member {path item operation security : Value} {m : String}
    (ho : item.member (lowerText m) = .ok operation) (hmap : operation.isMap = true)
    (hs : operation.member "security" = .ok security) (hne : security ≠ .null) :
    declaration? path item m =
      security.items >>= fun items => .ok (some ⟨path, .text m, .list items⟩) := by
  unfold declaration?
  simp only [ho, hs, hmap, bind, Except.bind, Bool.not_true, Bool.false_eq_true, if_false]
  cases security with
  | null => exact absurd rfl hne
  | _ => rfl

theorem declaration?_eq_some {path item : Value} {m : String} {d : Declaration} :
    declaration? path item m = .ok (some d) ↔
      ∃ operation security items, item.member (lowerText m) = .ok operation ∧
        operation.isMap = true ∧ operation.member "security" = .ok security ∧
        security ≠ .null ∧ security.items = .ok items ∧ d = ⟨path, .text m, .list items⟩ := by
  constructor
  · intro h
    unfold declaration? at h
    obtain ⟨operation, ho, h⟩ := bind_eq_ok.mp h
    split at h
    · cases h
    · rename_i hmap
      obtain ⟨security, hs, h⟩ := bind_eq_ok.mp h
      split at h
      · cases h
      · rename_i hne
        obtain ⟨items, hi, h⟩ := bind_eq_ok.mp h
        cases h
        exact ⟨operation, security, items, ho, by simpa using hmap, hs, hne, hi, rfl⟩
  · rintro ⟨operation, security, items, ho, hmap, hs, hne, hi, rfl⟩
    rw [declaration?_of_member ho hmap hs hne, hi]
    rfl

theorem mem_declarationsOf {path item : Value} {ds : List Declaration}
    (h : declarationsOf path item = .ok ds) {d : Declaration} :
    d ∈ ds ↔ item.isMap = true ∧ ∃ m ∈ methods, declaration? path item m = .ok (some d) := by
  unfold declarationsOf at h
  split at h
  · rename_i hmap
    obtain ⟨found, hf, h⟩ := bind_eq_ok.mp h
    cases h
    simp [hmap, List.mem_filterMap, mem_of_mapM hf]
  · rename_i hmap
    cases h
    simp [hmap]

/-- A list that was declared has items. -/
theorem exists_items {path item operation security : Value} {ds : List Declaration} {m : String}
    (h : declarationsOf path item = .ok ds) (hm : m ∈ methods) (hmap : item.isMap = true)
    (ho : item.member (lowerText m) = .ok operation) (hmapo : operation.isMap = true)
    (hs : operation.member "security" = .ok security) (hne : security ≠ .null) :
    ∃ items, security.items = .ok items := by
  unfold declarationsOf at h
  rw [if_pos hmap] at h
  obtain ⟨found, hf, -⟩ := bind_eq_ok.mp h
  obtain ⟨declaration, -, hd⟩ := exists_mem_of_mapM hf hm
  rw [declaration?_of_member ho hmapo hs hne] at hd
  obtain ⟨items, hi, -⟩ := bind_eq_ok.mp hd
  exact ⟨items, hi⟩

/-- The entries of a table before their paths are read, and its default. -/
theorem ofDeclarations_eq_ok {declarations : List Declaration} {default : Value} {t : Table}
    (h : ofDeclarations declarations default = .ok t) :
    (∃ listed, declarations.mapM Declaration.read = .ok listed ∧
      (ofEntries listed).mapM readOperation = .ok t.operations) ∧
    readAlternatives (default.orElse (.list [])) = .ok t.default := by
  obtain ⟨listed, hl, h⟩ := bind_eq_ok.mp h
  obtain ⟨default, hdef, h⟩ := bind_eq_ok.mp h
  obtain ⟨operations, ho, h⟩ := bind_eq_ok.mp h
  cases h
  exact ⟨⟨listed, hl, ho⟩, hdef⟩

/-- What a document says, the entries of its table before their paths are read, and its default. -/
theorem ofDocument_eq_ok {document : Value} {t : Table} (h : ofDocument document = .ok t) :
    (∃ entries declared listed, HasPaths document entries ∧
      entries.mapM (fun e => declarationsOf e.1 e.2) = .ok declared ∧
      declared.flatten.mapM Declaration.read = .ok listed ∧
      (ofEntries listed).mapM readOperation = .ok t.operations) ∧
    ∃ security, document.member "security" = .ok security ∧
      readAlternatives (security.orElse (.list [])) = .ok t.default := by
  obtain ⟨paths, hp, h⟩ := bind_eq_ok.mp h
  obtain ⟨entries, he, h⟩ := bind_eq_ok.mp h
  obtain ⟨declared, hd, h⟩ := bind_eq_ok.mp h
  obtain ⟨security, hs, h⟩ := bind_eq_ok.mp h
  obtain ⟨items, hi, h⟩ := bind_eq_ok.mp h
  obtain ⟨⟨listed, hl, ho⟩, hdef⟩ := ofDeclarations_eq_ok h
  -- an empty list is replaced by an empty list
  have hsame : (Value.list items).orElse (.list []) = .list items := by
    cases items <;> rfl
  rw [hsame, readAlternatives_list hi] at hdef
  exact ⟨⟨entries, declared, listed, ⟨paths, hp, he⟩, hd, hl, ho⟩, security, hs, hdef⟩

theorem mem_flatten_declared {entries : List (Value × Value)} {declared : List (List Declaration)}
    (h : entries.mapM (fun e => declarationsOf e.1 e.2) = .ok declared) {d : Declaration} :
    d ∈ declared.flatten ↔ ∃ e ∈ entries, e.2.isMap = true ∧
      ∃ m ∈ methods, declaration? e.1 e.2 m = .ok (some d) := by
  rw [List.mem_flatten]
  constructor
  · rintro ⟨ds, hds, hd⟩
    obtain ⟨e, hmem, he⟩ := (mem_of_mapM h).mp hds
    exact ⟨e, hmem, (mem_declarationsOf he).mp hd⟩
  · rintro ⟨e, hmem, hd⟩
    obtain ⟨ds, hds, he⟩ := exists_mem_of_mapM h hmem
    exact ⟨ds, hds, (mem_declarationsOf he).mpr hd⟩

/-- Before paths are read the table lists what the document lists. -/
theorem mem_listed {document : Value} {entries : List (Value × Value)}
    {declared : List (List Declaration)} {listed : List ((Value × String) × List Requirement)}
    (he : HasPaths document entries)
    (hd : entries.mapM (fun e => declarationsOf e.1 e.2) = .ok declared)
    (hl : declared.flatten.mapM Declaration.read = .ok listed) {p m : String}
    {alternatives : List Requirement} :
    ((.text p, m), alternatives) ∈ listed ↔
      m ∈ methods ∧ ∃ security, Lists document p m security ∧
        readAlternatives security = .ok alternatives := by
  rw [mem_of_mapM hl]
  constructor
  · rintro ⟨d, hmemd, hr⟩
    obtain ⟨⟨path, item⟩, hmeme, hmap, m', hm', hdecl⟩ :=
      (mem_flatten_declared hd).mp hmemd
    obtain ⟨operation, security, items, ho, hmapo, hs, hne, hi, rfl⟩ :=
      declaration?_eq_some.mp hdecl
    obtain ⟨hkey, ha⟩ := Declaration.read_eq_ok.mp hr
    rw [upperText_of_mem_methods hm'] at hkey
    cases hkey
    rw [readAlternatives_list hi] at ha
    exact ⟨hm', security, ⟨operation, ⟨entries, item, he, hmeme, hmap, ho, hmapo⟩, hs, hne⟩, ha⟩
  · rintro ⟨hm, security, ⟨operation, ⟨entries', item, he', hmeme, hmap, ho, hmapo⟩, hs, hne⟩, ha⟩
    cases he.unique he'
    obtain ⟨items, hi, -⟩ := bind_eq_ok.mp ha
    refine ⟨⟨.text p, .text m, .list items⟩,
      (mem_flatten_declared hd).mpr ⟨_, hmeme, hmap, m, hm, ?_⟩, ?_⟩
    · exact declaration?_eq_some.mpr ⟨operation, security, items, ho, hmapo, hs, hne, hi, rfl⟩
    · refine Declaration.read_eq_ok.mpr ⟨?_, (readAlternatives_list hi).trans ha⟩
      rw [upperText_of_mem_methods hm]

theorem lookup_of_mapM_readOperation {l : List ((Value × String) × List Requirement)}
    {operations : List (Operation × List Requirement)}
    (h : l.mapM readOperation = .ok operations) (p m : String) :
    operations.lookup ⟨p, m⟩ = l.lookup (.text p, m) := by
  induction l generalizing operations with
  | nil =>
    cases h
    rfl
  | cons e l ih =>
    rw [List.mapM_cons] at h
    obtain ⟨o, ho, h⟩ := bind_eq_ok.mp h
    obtain ⟨os, hos, h⟩ := bind_eq_ok.mp h
    cases h
    obtain ⟨⟨path, m'⟩, alternatives⟩ := e
    obtain ⟨q, hq, ho⟩ := bind_eq_ok.mp ho
    cases ho
    obtain rfl : path = .text q := by
      cases path <;> cases hq
      rfl
    have hbeq : (Operation.mk p m == ⟨q, m'⟩) = ((Value.text p, m) == (Value.text q, m')) := by
      rw [Bool.eq_iff_iff, beq_iff_eq]
      constructor
      · intro he
        cases he
        exact (isExact_operation p m).refl
      · intro he
        cases (isExact_operation p m).right _ he
        rfl
    rw [List.lookup_cons, List.lookup_cons, hbeq, ih hos]

/-- **The table of a document lists what the document lists**: an operation has alternatives of its
own when the document lists some for it, and they are those. -/
theorem lookup_ofDocument {document : Value} {t : Table} (hd : DistinctPaths document)
    (h : ofDocument document = .ok t) {p m : String} {alternatives : List Requirement} :
    t.operations.lookup ⟨p, m⟩ = some alternatives ↔
      m ∈ methods ∧ ∃ security, Lists document p m security ∧
        readAlternatives security = .ok alternatives := by
  obtain ⟨⟨entries, declared, listed, he, hdecl, hl, ho⟩, -⟩ := ofDocument_eq_ok h
  have hkey := isExact_operation p m
  rw [lookup_of_mapM_readOperation ho, lookup_ofEntries hkey]
  constructor
  · intro hs
    exact (mem_listed he hdecl hl).mp (List.mem_reverse.mp (mem_of_lookup hkey hs))
  · rintro ⟨hm, security, hs, ha⟩
    refine lookup_eq_some hkey (List.mem_reverse.mpr ?_) fun other hother => ?_
    · exact (mem_listed he hdecl hl).mpr ⟨hm, security, hs, ha⟩
    · obtain ⟨-, security', hs', ha'⟩ := (mem_listed he hdecl hl).mp (List.mem_reverse.mp hother)
      cases hs.unique hd hs'
      cases ha.symm.trans ha'
      rfl

/-- The alternatives that a document lists for an operation could be read. -/
theorem exists_alternatives {document : Value} {t : Table} (h : ofDocument document = .ok t)
    {p m : String} {security : Value} (hm : m ∈ methods) (hs : Lists document p m security) :
    ∃ alternatives, readAlternatives security = .ok alternatives := by
  obtain ⟨⟨entries, declared, listed, he, hdecl, hl, -⟩, -⟩ := ofDocument_eq_ok h
  obtain ⟨operation, ⟨entries', item, he', hmem, hmap, ho, hmapo⟩, hs, hne⟩ := hs
  cases he.unique he'
  obtain ⟨ds, hds, hds'⟩ := exists_mem_of_mapM hdecl hmem
  obtain ⟨items, hi⟩ := exists_items hds' hm hmap ho hmapo hs hne
  have hdecl' : declaration? (.text p) item m = .ok (some ⟨.text p, .text m, .list items⟩) :=
    declaration?_eq_some.mpr ⟨operation, security, items, ho, hmapo, hs, hne, hi, rfl⟩
  have hd : ⟨.text p, .text m, .list items⟩ ∈ ds :=
    (mem_declarationsOf hds').mpr ⟨hmap, m, hm, hdecl'⟩
  obtain ⟨e, -, hr⟩ := exists_mem_of_mapM hl (List.mem_flatten.mpr ⟨ds, hds, hd⟩)
  obtain ⟨-, ha⟩ := Declaration.read_eq_ok.mp hr
  exact ⟨e.2, (readAlternatives_list hi).symm.trans ha⟩

/-! ### Matching -/

section Matching

variable {document : Value} {t : Table} {m : String} (hd : DistinctPaths document)
  (h : ofDocument document = .ok t) (hm : m ∈ methods)

include hd h hm

theorem declares_ofDocument {q : String} :
    t.declares (some m) q = true ↔ ∃ security, Lists document q m security := by
  rw [declares_iff]
  constructor
  · rintro ⟨alternatives, ha⟩
    obtain ⟨-, security, hs, -⟩ := (lookup_ofDocument hd h).mp ha
    exact ⟨security, hs⟩
  · rintro ⟨security, hs⟩
    obtain ⟨alternatives, ha⟩ := exists_alternatives h hm hs
    exact ⟨alternatives, (lookup_ofDocument hd h).mpr ⟨hm, security, hs, ha⟩⟩

theorem resolve_of_lists {q : String} (hq : q ≠ "") {security : Value}
    (hs : Lists document q m security) {alternatives : List Requirement}
    (ha : readAlternatives security = .ok alternatives) :
    t.resolve (some q) (some m) = .ok alternatives := by
  have hget : t.get? q m = some alternatives := by
    rw [get?, upperText_of_mem_methods hm]
    exact (lookup_ofDocument hd h).mpr ⟨hm, security, hs, ha⟩
  rw [resolve_of_ne hq (ne_empty_of_mem_methods hm), hget, Option.getD_some]

theorem resolve_of_not_lists {q : String} (hq : q ≠ "")
    (hs : ∀ security, ¬ Lists document q m security) :
    t.resolve (some q) (some m) = .ok t.default := by
  have hget : t.get? q m = none := by
    rw [get?, upperText_of_mem_methods hm]
    refine Option.eq_none_iff_forall_ne_some.mpr fun alternatives ha => ?_
    obtain ⟨-, security, hl, -⟩ := (lookup_ofDocument hd h).mp ha
    exact hs security hl
  rw [resolve_of_ne hq (ne_empty_of_mem_methods hm), hget, Option.getD_none]

theorem matchPath_ofDocument {path q : String} :
    t.matchPath path (some m) = some q ↔
      (∃ security, Lists document q m security) ∧
        Path.Instantiates (Path.pieces q) path.toList ∧
        ∀ q' security, Lists document q' m security →
          Path.Instantiates (Path.pieces q') path.toList → Path.rank q ≤ Path.rank q' := by
  rw [matchPath_eq_some (givenMethod_of_mem_methods hm)]
  simp only [declares_ofDocument hd h hm, Path.isInstance_iff, forall_exists_index]

theorem matchPath_ofDocument_eq_none {path : String} :
    t.matchPath path (some m) = none ↔
      ∀ q security, Lists document q m security →
        ¬ Path.Instantiates (Path.pieces q) path.toList := by
  rw [matchPath_eq_none (givenMethod_of_mem_methods hm)]
  simp only [declares_ofDocument hd h hm, Bool.eq_false_iff, Ne, Path.isInstance_iff,
    forall_exists_index]

/-- A path without braces is found when the document lists alternatives for it. -/
theorem matchPath_literal {p : String} (hp : '{' ∉ p.toList) {security : Value}
    (hs : Lists document p m security) : t.matchPath p (some m) = some p := by
  refine (matchPath_ofDocument hd h hm).mpr ⟨⟨security, hs⟩, ?_, fun q other _ hq => ?_⟩
  · exact Path.isInstance_iff.mp ((Path.isInstance_of_not_mem hp).mpr rfl)
  · by_cases hb : '{' ∈ q.toList
    · exact le_of_lt (Path.rank_lt_of_mem hp hb)
    · rw [(Path.isInstance_of_not_mem hb).mp (Path.isInstance_iff.mpr hq)]

end Matching

end Table

end RequestAuth
