import RequestAuth.Authenticator
import RequestAuth.Proofs.Requirement.Document
import RequestAuth.Proofs.Requirement.Table

/-!
# Literal paths and templates

A request whose path a document declares literally has the alternatives of that operation if the
operation lists some. An operation without `security` is not in the table, so a template that the
path is an instance of and that lists some is found instead; only if there is none the default
holds.
-/

namespace RequestAuth

theorem Security.table_ofDocument {document : Value} {security : Security} {notices : List Notice}
    (h : Security.ofDocument document = .ok (security, notices)) :
    Table.ofDocument document = .ok security.table := by
  obtain ⟨⟨schemes, found⟩, -, h⟩ := bind_eq_ok.mp h
  obtain ⟨table, ht, h⟩ := bind_eq_ok.mp h
  cases h
  exact ht

namespace Authenticator

/-- The alternatives for a request, those of the operation that it is matched with. -/
def alternativesFor (a : Authenticator) (request : Request) : Except Fault (List Requirement) := do
  a.security.table.resolve (some (← a.operationPath request)) request.method

theorem start_eq_ok {config : Config} {security : Security} {a : Authenticator}
    {interval : Option Value} (h : start config security = .ok (a, interval)) :
    a.config = config ∧ a.security = security ∧ readBasePath config.baseUri = .ok a.basePath := by
  obtain ⟨base, hb, h⟩ := bind_eq_ok.mp h
  obtain ⟨renews, -, h⟩ := bind_eq_ok.mp h
  cases h
  exact ⟨rfl, rfl, hb⟩

theorem basePath_of_start {config : Config} {security : Security} {a : Authenticator}
    {interval : Option Value} (h : start config security = .ok (a, interval))
    (hb : isFilled config.baseUri = false) : a.basePath = [] := by
  obtain ⟨-, -, hbase⟩ := start_eq_ok h
  have hnone : config.baseUri.filter (!·.isEmpty) = none := by
    cases hu : config.baseUri with
    | none => rfl
    | some uri => simpa [isFilled, hu, Option.filter] using hb
  unfold readBasePath at hbase
  rw [hnone] at hbase
  exact (Except.ok.inj hbase).symm

variable {a : Authenticator} {request : Request} {u : Url} {p m : String}

/-- Without a header the part of the address's path below the base is matched. -/
theorem operationPath_of_split (hheader : request.header? pathHeader = none)
    (hurl : Url.split request.url.toList = .ok u)
    (hbelow : belowBase a.basePath u.path = p.toList) :
    a.operationPath request =
      .ok ((a.security.table.matchPath p request.method).getD p) := by
  unfold operationPath
  rw [hheader, hurl]
  simp only [Option.filter_none]
  refine bind_eq_ok.mpr ⟨u, rfl, ?_⟩
  rw [hbelow, String.ofList_toList]
  cases hm : a.security.table.matchPath p request.method with
  | none => rfl
  | some q =>
    by_cases hq : q = ""
    · -- the empty path counts as none, but only the empty path is an instance of it
      subst hq
      have hp := (Path.isInstance_of_not_mem (by simp)).mp (Table.isInstance_of_matchPath hm)
      rw [hp]
      rfl
    · have hf : (some q).filter (!·.isEmpty) = some q := by simp [Option.filter, hq]
      rw [hf]
      rfl

/-- Without a header and a base the path of the address is matched. -/
theorem operationPath_eq (hbase : a.basePath = []) (hheader : request.header? pathHeader = none)
    (hurl : Url.split request.url.toList = .ok u) (hpath : u.path = p.toList) :
    a.operationPath request =
      .ok ((a.security.table.matchPath p request.method).getD p) :=
  operationPath_of_split hheader hurl (by simp [belowBase, hbase, hpath])

/-- **A literal path has the alternatives that its operation lists, and if it lists none, those of
the first template that matches.** The request has no path of its own in a header, there is no base
address, and the document describes the operation `p`, `m` by a mapping with the list `own`, or none
if `own` is null. -/
theorem literal_path_alternatives {config : Config} {security : Security} {interval : Option Value}
    {document operation own : Value} {notices : List Notice}
    (hstart : start config security = .ok (a, interval)) (hbase : isFilled config.baseUri = false)
    (hdoc : Security.ofDocument document = .ok (security, notices))
    (hpaths : DistinctPaths document) (hheader : request.header? pathHeader = none)
    (hurl : Url.split request.url.toList = .ok u) (hpath : u.path = p.toList)
    (hmethod : request.method = some m) (hm : m ∈ methods) (hslash : p.toList.head? = some '/')
    (hbrace : '{' ∉ p.toList) (hop : Describes document p m operation)
    (hown : operation.member "security" = .ok own) :
    (own ≠ .null → ∃ alternatives, readAlternatives own = .ok alternatives ∧
      a.operationPath request = .ok p ∧ a.alternativesFor request = .ok alternatives) ∧
    (own = .null →
      (∀ q other, Lists document q m other → ¬ Path.Instantiates (Path.pieces q) p.toList) →
      a.operationPath request = .ok p ∧ a.alternativesFor request = .ok security.table.default) ∧
    (own = .null →
      (∃ q other, Lists document q m other ∧ Path.Instantiates (Path.pieces q) p.toList) →
      ∃ q other alternatives, Lists document q m other ∧
        Path.Instantiates (Path.pieces q) p.toList ∧
        (∀ q' other', Lists document q' m other' → Path.Instantiates (Path.pieces q') p.toList →
          Path.rank q ≤ Path.rank q') ∧
        q ≠ p ∧ readAlternatives other = .ok alternatives ∧
        a.operationPath request = .ok q ∧ a.alternativesFor request = .ok alternatives) ∧
    ∃ list, document.member "security" = .ok list ∧
      readAlternatives (list.orElse (.list [])) = .ok security.table.default := by
  have htable := Security.table_ofDocument hdoc
  have hp : p ≠ "" := by
    rintro rfl
    cases hslash
  obtain ⟨-, rfl, -⟩ := start_eq_ok hstart
  have hfound := operationPath_eq (basePath_of_start hstart hbase) hheader hurl hpath
  rw [hmethod] at hfound
  have hresolved {q : String} (hq : a.operationPath request = .ok q) :
      a.alternativesFor request = a.security.table.resolve (some q) (some m) := by
    rw [alternativesFor, hq, hmethod]
    rfl
  have hnone (h : own = .null) (other : Value) : ¬ Lists document p m other := by
    rintro ⟨operation', hop', hother, hne⟩
    cases hop.unique hpaths hop'
    exact hne ((Except.ok.inj (hother.symm.trans hown)).trans h)
  refine ⟨fun hne => ?own, fun hnull hno => ?default, fun hnull hsome => ?template,
    (Table.ofDocument_eq_ok htable).2⟩
  case own =>
    have hlists : Lists document p m own := ⟨operation, hop, hown, hne⟩
    obtain ⟨alternatives, ha⟩ := Table.exists_alternatives htable hm hlists
    rw [Table.matchPath_literal hpaths htable hm hbrace hlists] at hfound
    exact ⟨alternatives, ha, hfound,
      (hresolved hfound).trans (Table.resolve_of_lists hpaths htable hm hp hlists ha)⟩
  case default =>
    rw [(Table.matchPath_ofDocument_eq_none hpaths htable hm).mpr hno] at hfound
    exact ⟨hfound, (hresolved hfound).trans
      (Table.resolve_of_not_lists hpaths htable hm hp (hnone hnull))⟩
  case template =>
    cases hq : a.security.table.matchPath p (some m) with
    | none =>
      obtain ⟨q, other, hl, hi⟩ := hsome
      exact absurd hi ((Table.matchPath_ofDocument_eq_none hpaths htable hm).mp hq q other hl)
    | some q =>
      rw [hq] at hfound
      obtain ⟨⟨other, hl⟩, hi, hfirst⟩ := (Table.matchPath_ofDocument hpaths htable hm).mp hq
      obtain ⟨alternatives, ha⟩ := Table.exists_alternatives htable hm hl
      have hne : q ≠ "" := Path.ne_empty_of_isInstance (Path.isInstance_iff.mpr hi) hp
      have hqp : q ≠ p := by
        rintro rfl
        exact hnone hnull other hl
      exact ⟨q, other, alternatives, hl, hi, hfirst, hqp, ha, hfound,
        (hresolved hfound).trans (Table.resolve_of_lists hpaths htable hm hne hl ha)⟩

/-! ### A template in front of a literal path -/

/-- A document in which a template lists a scheme and a literal path that matches it lists none. -/
def pets : Value :=
  .map [(.text "paths", .map [
    (.text "/pets/{id}", .map [
      (.text "get", .map [(.text "security", .list [.map [(.text "key", .list [])]])])]),
    (.text "/pets/mine", .map [(.text "get", .map [])])])]

/-- What the document says about security. -/
def petsSecurity : Security := ⟨[], ⟨[(⟨"/pets/{id}", "GET"⟩, [[(.text "key", [])]])], []⟩⟩

/-- A configuration that sets nothing. -/
def bareConfig : Config :=
  ⟨none, .none, none, none, none, none, none, none, [], none, none, none, none, .null, .int 0⟩

/-- A request to the literal path. -/
def petsRequest : Request := ⟨"http://h/pets/mine", some "GET", [], 0⟩

theorem start_bareConfig :
    start bareConfig petsSecurity = .ok (⟨bareConfig, petsSecurity, []⟩, none) := by
  simp [start, bareConfig, readBasePath, Value.isPositive, Value.less?, isFilled]
  rfl

theorem distinctPaths_pets : DistinctPaths pets := by
  intro entries h
  cases h.unique ⟨_, rfl, rfl⟩
  simp [BEq.beq, Value.same]

theorem describes_pets : Describes pets "/pets/mine" "GET" (.map []) :=
  ⟨_, _, ⟨_, rfl, rfl⟩, .tail _ (.head _), rfl, rfl, rfl⟩

theorem lists_pets : Lists pets "/pets/{id}" "GET" (.list [.map [(.text "key", .list [])]]) :=
  ⟨_, ⟨_, _, ⟨_, rfl, rfl⟩, .head _, rfl, rfl, rfl⟩, rfl, nofun⟩

theorem eq_or_eq_of_lists_pets {q m : String} {security : Value} (h : Lists pets q m security) :
    q = "/pets/{id}" ∨ q = "/pets/mine" := by
  obtain ⟨operation, ⟨entries, item, he, hmem, -⟩, -⟩ := h
  cases he.unique ⟨_, rfl, rfl⟩
  simp only [List.mem_cons, Prod.mk.injEq, Value.text.injEq, List.not_mem_nil, or_false] at hmem
  exact hmem.imp And.left And.left

theorem pieces_pets : Path.pieces "/pets/{id}" =
    [.literal "/pets/".toList, .parameter, .literal []] := by
  have hafter : Path.afterParameter? ['i', 'd', '}'] = some [] := by decide
  simp [Path.pieces, Path.piecesAfter_text, Path.piecesAfter_parameter hafter,
    Path.piecesAfter_nil, Path.ofText]

theorem instantiates_pets :
    Path.Instantiates (Path.pieces "/pets/{id}") "/pets/mine".toList := by
  have hend : Path.Instantiates [.literal []] [] := @Path.Instantiates.literal [] [] [] .nil
  have hname : Path.Instantiates [.parameter, .literal []] "mine".toList :=
    @Path.Instantiates.parameter "mine".toList [] _ (by decide) (by decide) hend
  rw [pieces_pets]
  exact @Path.Instantiates.literal "/pets/".toList "mine".toList _ hname

/-- The literal path gets the alternatives of the template, although it lists none and the default
is empty. -/
theorem literal_path_shadowed : petsSecurity.table.default = [] ∧
    Authenticator.operationPath ⟨bareConfig, petsSecurity, []⟩ petsRequest = .ok "/pets/{id}" ∧
    Authenticator.alternativesFor ⟨bareConfig, petsSecurity, []⟩ petsRequest =
      .ok [[(.text "key", [])]] := by
  have hdoc : Security.ofDocument pets = .ok (petsSecurity, []) := rfl
  have hheader : petsRequest.header? pathHeader = none := rfl
  have hurl : Url.split petsRequest.url.toList =
      .ok ⟨"http".toList, "h".toList, "/pets/mine".toList, [], []⟩ := rfl
  have hshadow := (literal_path_alternatives start_bareConfig rfl hdoc distinctPaths_pets hheader
    hurl rfl rfl (by decide) rfl (by decide) describes_pets rfl).2.2.1 rfl
    ⟨_, _, lists_pets, instantiates_pets⟩
  obtain ⟨q, other, alternatives, hl, -, -, hne, ha, hpath, hfor⟩ := hshadow
  obtain rfl := (eq_or_eq_of_lists_pets hl).resolve_right hne
  cases hl.unique distinctPaths_pets lists_pets
  cases ha
  exact ⟨rfl, hpath, hfor⟩

end Authenticator

end RequestAuth
