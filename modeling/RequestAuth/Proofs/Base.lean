import RequestAuth.Proofs.Operation
import RequestAuth.Proofs.Url
import Mathlib.Data.List.DropRight

/-!
# Operations below the base address

The path of a request's address, less the path of the base address, is matched with the declared
paths. When a request leads to an instance of an operation that lists alternatives, some operation
is found that does, and the request has its alternatives and not the default ones. What is taken off
ends where a segment ends, so `/v1` is not taken off `/v10/pets`.

The path of the base has to begin with a slash, as it does behind a host. Without a scheme,
`localhost:8080/v1` has the path `8080/v1`, and no request is below that.
-/

namespace RequestAuth

namespace Path

theorem head?_ofText {text : List Char} (h : text.head? = some '/') : ofText text = .literal text := by
  rw [ofText, h]
  exact if_neg (by decide)

/-- The pieces of a text behind a slash begin with a literal that begins with the slash. -/
theorem exists_piecesAfter (text s : List Char) :
    ∃ rest ps, piecesAfter text s = ofText (text ++ rest) :: ps := by
  fun_induction piecesAfter text s with
  | case1 text => exact ⟨[], [], by rw [List.append_nil]⟩
  | case2 text rest tail h ih => exact ⟨[], _, by rw [List.append_nil]⟩
  | case3 text rest h ih =>
    obtain ⟨more, ps, hps⟩ := ih
    exact ⟨'{' :: more, ps, by simpa using hps⟩
  | case4 text c rest hc ih =>
    obtain ⟨more, ps, hps⟩ := ih
    exact ⟨c :: more, ps, by simpa using hps⟩

/-- An instance of a path that begins with a slash begins with one. -/
theorem head?_of_instantiates {p : String} {u : List Char} (hp : p.toList.head? = some '/')
    (h : Instantiates (pieces p) u) : u.head? = some '/' := by
  obtain ⟨s, hs⟩ : ∃ s, p.toList = '/' :: s := by
    cases hl : p.toList with
    | nil => simp [hl] at hp
    | cons c s =>
      obtain rfl : c = '/' := by simpa [hl] using hp
      exact ⟨s, rfl⟩
  obtain ⟨rest, ps, hps⟩ := exists_piecesAfter ['/'] s
  have hpieces : pieces p = .literal ('/' :: rest) :: ps := by
    rw [pieces, hs, piecesAfter_text (by decide), List.nil_append, hps, head?_ofText rfl]
    rfl
  rw [hpieces] at h
  cases h
  rfl

end Path

/-! ### The base -/

/-- The path of a base address, without the slashes at its end; empty if there is no base. -/
def IsBasePath (baseUri : Option String) (base : List Char) : Prop :=
  match baseUri.filter (!·.isEmpty) with
  | none => base = []
  | some uri => ∃ u slashes, Url.split uri.toList = .ok u ∧ u.path = base ++ slashes ∧
    (∀ c ∈ slashes, c = '/') ∧ base.getLast? ≠ some '/'

theorem rdropWhile_eq_iff {s base : List Char} :
    s.rdropWhile (· == '/') = base ↔
      ∃ slashes, s = base ++ slashes ∧ (∀ c ∈ slashes, c = '/') ∧ base.getLast? ≠ some '/' := by
  constructor
  · rintro rfl
    refine ⟨s.rtakeWhile (· == '/'), List.rdropWhile_append_rtakeWhile.symm, fun c hc => ?_, ?_⟩
    · simpa using List.mem_rtakeWhile_imp hc
    · intro hlast
      have hne : s.rdropWhile (· == '/') ≠ [] := by
        intro hnil
        simp [hnil] at hlast
      have hslash := List.rdropWhile_last_not (· == '/') s hne
      rw [List.getLast?_eq_some_getLast hne] at hlast
      simp [Option.some.inj hlast] at hslash
  · rintro ⟨slashes, rfl, hslashes, hlast⟩
    induction slashes using List.reverseRecOn with
    | nil =>
      rw [List.append_nil, List.rdropWhile_eq_self_iff]
      intro hne hslash
      rw [List.getLast?_eq_some_getLast hne] at hlast
      exact hlast (congrArg some (by simpa using hslash))
    | append_singleton slashes c ih =>
      have hc : c = '/' := hslashes c (by simp)
      rw [← List.append_assoc, List.rdropWhile_concat_pos _ _ _ (by simp [hc])]
      exact ih fun d hd => hslashes d (by simp [hd])

theorem readBasePath_eq_ok {baseUri : Option String} {base : List Char} :
    readBasePath baseUri = .ok base ↔ IsBasePath baseUri base := by
  unfold readBasePath IsBasePath
  cases baseUri.filter (!·.isEmpty) with
  | none => exact ⟨fun h => (Except.ok.inj h).symm, fun h => congrArg _ h.symm⟩
  | some uri =>
    dsimp only
    rw [bind_eq_ok]
    constructor
    · rintro ⟨u, hu, h⟩
      obtain ⟨slashes, hs⟩ := rdropWhile_eq_iff.mp (Except.ok.inj h)
      exact ⟨u, slashes, hu, hs⟩
    · rintro ⟨u, slashes, hu, hs⟩
      exact ⟨u, hu, congrArg Except.ok (rdropWhile_eq_iff.mpr ⟨slashes, hs⟩)⟩

theorem isPathChar_of_isBasePath {baseUri : Option String} {base : List Char}
    (h : IsBasePath baseUri base) {c : Char} (hc : c ∈ base) : Url.isPathChar c = true := by
  unfold IsBasePath at h
  split at h
  · subst h
    cases hc
  · obtain ⟨u, slashes, hu, hpath, -⟩ := h
    exact Url.isPathChar_of_split hu (by simp [hpath, hc])

/-! ### What stands below the base -/

theorem belowBase_append {base rest : List Char} (h : rest.head? = some '/') :
    belowBase base (base ++ rest) = rest := by
  obtain ⟨c, rest, rfl⟩ := List.exists_cons_of_ne_nil (l := rest) (by rintro rfl; cases h)
  obtain rfl : c = '/' := by simpa using h
  cases base with
  | nil => rfl
  | cons d base =>
    simp [belowBase]

theorem belowBase_of_not_below {base path : List Char} (h : path ≠ base)
    (hbelow : ¬ base ++ ['/'] <+: path) : belowBase base path = path := by
  have hprefix : (base ++ ['/']).isPrefixOf path = false := by
    rwa [← Bool.not_eq_true, List.isPrefixOf_iff_prefix]
  simp [belowBase, h, hprefix]

/-- The path of an address that is written with the path of the base and `u` behind it. -/
theorem split_below {baseUri : Option String} {base u url : List Char}
    (hbase : IsBasePath baseUri base) (hslash : ∀ c ∈ base.head?, c = '/')
    (hhead : u.head? = some '/') (hu : ∀ c ∈ u, Url.isPathChar c = true)
    (h : Url.IsWritten url (base ++ u)) :
    ∃ v, Url.split url = .ok v ∧ belowBase base v.path = u := by
  have hfirst : ∀ c ∈ (base ++ u).head?, c = '/' := by
    cases base with
    | nil => simp [hhead]
    | cons c base => exact hslash
  have hchars : ∀ c ∈ base ++ u, Url.isPathChar c = true := by
    intro c hc
    rcases List.mem_append.mp hc with hc | hc
    · exact isPathChar_of_isBasePath hbase hc
    · exact hu c hc
  obtain ⟨v, hv, hpath⟩ := h.split hfirst hchars
  exact ⟨v, hv, by rw [hpath, belowBase_append hhead]⟩

namespace Authenticator

/-- **A request to an instance of a secured operation below the base has that table's own
alternatives.** The base path is empty or begins with a slash. Some path is found that lists
alternatives for the method and that `u` is an instance of, whatever the spelling of the method, and
the request has what is listed there, even if that is empty. A path that is neither the base path
nor below it is matched as it is. -/
theorem secured_below_base {config : Config} {security : Security} {a : Authenticator}
    {interval : Option Value} {base : List Char}
    (hstart : start config security = .ok (a, interval)) (hbase : IsBasePath config.baseUri base) :
    (∀ (request : Request) (p m u method : String) (own : List Requirement),
      (∀ c ∈ base.head?, c = '/') → request.header? pathHeader = none →
      request.method = some method → upperText method = m → m ≠ "" →
      (∀ c ∈ u.toList, Url.isPathChar c = true) →
      Url.IsWritten request.url.toList (base ++ u.toList) →
      (⟨p, m⟩, own) ∈ security.table.operations → p.toList.head? = some '/' →
      Path.Instantiates (Path.pieces p) u.toList →
      ∃ q alternatives,
        (∀ spelling, upperText spelling = m →
          security.table.matchPath u (some spelling) = some q) ∧
        Path.Instantiates (Path.pieces q) u.toList ∧
        security.table.operations.lookup ⟨q, m⟩ = some alternatives ∧
        a.operationPath request = .ok q ∧ a.alternativesFor request = .ok alternatives) ∧
    ∀ (request : Request) (v : Url), base ≠ [] → request.header? pathHeader = none →
      Url.split request.url.toList = .ok v → v.path ≠ base → ¬ base ++ ['/'] <+: v.path →
      a.operationPath request =
        .ok ((security.table.matchPath (String.ofList v.path) request.method).getD
          (String.ofList v.path)) := by
  obtain ⟨-, rfl, hread⟩ := start_eq_ok hstart
  obtain rfl : a.basePath = base := by
    have hok := readBasePath_eq_ok.mpr hbase
    exact Except.ok.inj (hread.symm.trans hok)
  refine ⟨?below, ?beside⟩
  case below =>
    intro request p m u method own hslash hheader hmethod hupper hm hu hwritten hmem hp hi
    have hhead : u.toList.head? = some '/' := Path.head?_of_instantiates hp hi
    obtain ⟨v, hv, hbelow⟩ := split_below hbase hslash hhead hu hwritten
    obtain ⟨q, alternatives, hqi, ha, hq⟩ := Table.exists_secured hm hmem (Path.isInstance_iff.mpr hi)
    have hfound : a.operationPath request = .ok q := by
      rw [operationPath_of_split hheader hv hbelow, hmethod, hq method hupper, Option.getD_some]
    have hne : q ≠ "" := by
      refine Path.ne_empty_of_isInstance hqi ?_
      rintro rfl
      cases hhead
    have hresolved : a.alternativesFor request = .ok alternatives := by
      rw [← hupper] at ha
      rw [alternativesFor, hfound, hmethod]
      exact Table.resolve_of_lookup hne (Table.ne_empty_of_upperText hm hupper) ha
    exact ⟨q, alternatives, hq, Path.isInstance_iff.mp hqi, ha, hfound, hresolved⟩
  case beside =>
    intro request v _ hheader hv hne hbelow
    refine operationPath_of_split hheader hv ?_
    rw [belowBase_of_not_below hne hbelow, String.toList_ofList]

/-! ### A base with a host, and one without a scheme -/

/-- A configuration that sets the base address alone. -/
def basedConfig (uri : String) : Config := { bareConfig with baseUri := some uri }

/-- A request to the literal path of `pets` below the address of a host. -/
def petsRequestAt (host : String) : Request := ⟨host ++ "/pets/mine", some "get", [], 0⟩

theorem isOrigin_http {host : List Char}
    (h : host.all (fun c => !Url.endsAuthority c && !Url.isDropped c) = true)
    (hcheck : Url.checkAuthority host = .ok ()) : Url.IsOrigin "http".toList host where
  starts := rfl
  chars := List.all_eq_true.mp rfl
  ends c hc := by simpa using (Bool.and_eq_true_iff.mp (List.all_eq_true.mp h c hc)).1
  kept c hc := by simpa using (Bool.and_eq_true_iff.mp (List.all_eq_true.mp h c hc)).2
  checked := hcheck

theorem start_basedConfig {uri : String} {base : List Char}
    (h : readBasePath (some uri) = .ok base) :
    start (basedConfig uri) petsSecurity = .ok (⟨basedConfig uri, petsSecurity, base⟩, none) := by
  have hbase : readBasePath (basedConfig uri).baseUri = .ok base := h
  simp only [start, hbase, bind, Except.bind]
  simp [basedConfig, bareConfig, Value.isPositive, Value.less?]
  rfl

theorem eq_of_lookup_pets {q m : String} {alternatives : List Requirement}
    (h : petsSecurity.table.operations.lookup ⟨q, m⟩ = some alternatives) :
    q = "/pets/{id}" ∧ alternatives = [[(.text "key", [])]] := by
  have hmem := mem_of_lookup (.of_lawful _) h
  simp only [petsSecurity, List.mem_singleton, Prod.mk.injEq, Operation.mk.injEq] at hmem
  exact ⟨hmem.1.1, hmem.2⟩

theorem matchPath_beside_pets {path : String}
    (h : Path.matchesPieces [.literal "/pets/".toList, .parameter, .literal []] path.toList =
      false) : petsSecurity.table.matchPath path (some "get") = none := by
  have hgiven : Table.givenMethod (some "get") = some "GET" := by decide
  refine (Table.matchPath_eq_none hgiven).mpr fun q hq => ?_
  obtain ⟨alternatives, ha⟩ := Table.declares_iff.mp hq
  rw [(eq_of_lookup_pets ha).1, Path.isInstance, pieces_pets, h]

/-- Below a base with a host the template is found, and the request has its alternatives; beside it
the path is looked for as it is. -/
theorem template_found_below_base :
    Authenticator.operationPath ⟨basedConfig "http://h/v1/", petsSecurity, "/v1".toList⟩
        (petsRequestAt "http://h/v1") = .ok "/pets/{id}" ∧
      Authenticator.alternativesFor ⟨basedConfig "http://h/v1/", petsSecurity, "/v1".toList⟩
        (petsRequestAt "http://h/v1") = .ok [[(.text "key", [])]] ∧
      Authenticator.operationPath ⟨basedConfig "http://h/v1/", petsSecurity, "/v1".toList⟩
        (petsRequestAt "http://h/v10") = .ok "/v10/pets/mine" := by
  have hread : readBasePath (some "http://h/v1/") = .ok "/v1".toList := rfl
  have hwritten : Url.IsWritten (petsRequestAt "http://h/v1").url.toList
      ("/v1".toList ++ "/pets/mine".toList) :=
    ⟨"http".toList, "h".toList, [], isOrigin_http rfl rfl, rfl, nofun⟩
  have hbeside : Url.split (petsRequestAt "http://h/v10").url.toList =
      .ok ⟨"http".toList, "h".toList, "/v10/pets/mine".toList, [], []⟩ := rfl
  have hsecured := secured_below_base (start_basedConfig hread) (readBasePath_eq_ok.mp hread)
  obtain ⟨q, alternatives, -, -, hl, hpath, hfor⟩ :=
    hsecured.1 (petsRequestAt "http://h/v1") "/pets/{id}" "GET" "/pets/mine" "get"
      [[(.text "key", [])]] (fun _ hc => (Option.some.inj hc).symm) rfl rfl (by decide) (by decide)
      (List.all_eq_true.mp rfl) hwritten (.head _) (by decide) instantiates_pets
  obtain ⟨rfl, rfl⟩ := eq_of_lookup_pets hl
  refine ⟨hpath, hfor, ?_⟩
  have hnone := matchPath_beside_pets (by decide : Path.matchesPieces
    [.literal "/pets/".toList, .parameter, .literal []] "/v10/pets/mine".toList = false)
  rw [hsecured.2 _ _ (by decide) rfl hbeside (by decide) (by decide)]
  exact congrArg (fun found => Except.ok (found.getD "/v10/pets/mine")) hnone

/-- Below a base without a scheme nothing is taken off, and the request has the default
alternatives, although what stands behind the base is an instance of an operation with its own. -/
theorem below_schemeless_base_unmatched :
    start (basedConfig "localhost:8080/v1") petsSecurity =
        .ok (⟨basedConfig "localhost:8080/v1", petsSecurity, "8080/v1".toList⟩, none) ∧
      IsBasePath (some "localhost:8080/v1") "8080/v1".toList ∧
      Url.IsWritten (petsRequestAt "http://localhost:8080/v1").url.toList
        ("8080/v1".toList ++ "/pets/mine".toList) ∧
      (petsRequestAt "http://localhost:8080/v1").header? pathHeader = none ∧
      petsSecurity.table.operations.lookup ⟨"/pets/{id}", "GET"⟩ = some [[(.text "key", [])]] ∧
      Path.Instantiates (Path.pieces "/pets/{id}") "/pets/mine".toList ∧
      petsSecurity.table.declares (some "GET") "/v1/pets/mine" = false ∧
      Authenticator.operationPath
        ⟨basedConfig "localhost:8080/v1", petsSecurity, "8080/v1".toList⟩
        (petsRequestAt "http://localhost:8080/v1") = .ok "/v1/pets/mine" ∧
      Authenticator.alternativesFor
        ⟨basedConfig "localhost:8080/v1", petsSecurity, "8080/v1".toList⟩
        (petsRequestAt "http://localhost:8080/v1") = .ok [] := by
  have hread : readBasePath (some "localhost:8080/v1") = .ok "8080/v1".toList := rfl
  have hwritten : Url.IsWritten (petsRequestAt "http://localhost:8080/v1").url.toList
      ("8080/v1".toList ++ "/pets/mine".toList) :=
    ⟨"http".toList, "localhost:".toList, [], isOrigin_http rfl rfl, rfl, nofun⟩
  have hurl : Url.split (petsRequestAt "http://localhost:8080/v1").url.toList =
      .ok ⟨"http".toList, "localhost:8080".toList, "/v1/pets/mine".toList, [], []⟩ := rfl
  have hpath : Authenticator.operationPath
      ⟨basedConfig "localhost:8080/v1", petsSecurity, "8080/v1".toList⟩
      (petsRequestAt "http://localhost:8080/v1") = .ok "/v1/pets/mine" := by
    have hbelow : belowBase "8080/v1".toList "/v1/pets/mine".toList = "/v1/pets/mine".toList :=
      belowBase_of_not_below (by decide) (by decide)
    have hnone := matchPath_beside_pets (by decide : Path.matchesPieces
      [.literal "/pets/".toList, .parameter, .literal []] "/v1/pets/mine".toList = false)
    rw [operationPath_of_split rfl hurl hbelow]
    exact congrArg (fun found => Except.ok (found.getD "/v1/pets/mine")) hnone
  refine ⟨start_basedConfig hread, readBasePath_eq_ok.mp hread, hwritten, rfl, rfl,
    instantiates_pets, by decide, hpath, ?_⟩
  rw [alternativesFor, hpath]
  rfl

end Authenticator

end RequestAuth
