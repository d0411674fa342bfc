import RequestAuth.Proofs.Ahead
import RequestAuth.Proofs.Cookie
import RequestAuth.Proofs.Entries
import RequestAuth.Proofs.Form
import RequestAuth.Proofs.Url

/-!
# All schemes of an alternative

The credential of each scheme is one header, one cookie or one pair of the query (`Single`). When an
alternative is applied, each of them is found on the request (`Credential.On`), unless it is a
header that is disturbed: by one of the same name behind it that has another value, or by cookies
when it is the cookie header (`Disturbed`).
-/

namespace RequestAuth

/-- Whether the characters of a name are letters, digits, hyphens and underscores, or are beyond
ASCII. -/
def IsPlainName (s : String) : Prop :=
  ∀ c ∈ s.toList, c.isAlphanum = true ∨ c = '-' ∨ c = '_' ∨ 128 ≤ c.toNat

theorem isPlainName_of_all {s : String}
    (h : s.toList.all (fun c => c.isAlphanum || c == '-' || c == '_') = true) : IsPlainName s := by
  intro c hc
  have hplain := List.all_eq_true.mp h c hc
  simp only [Bool.or_eq_true, beq_iff_eq] at hplain
  rcases hplain with (h | h) | h
  · exact .inl h
  · exact .inr (.inl h)
  · exact .inr (.inr (.inl h))

/-- The characters that end a pair or the part of an address it stands in, or are dropped. -/
def endMarks : List Char := [';', '&', '#', '\t', '\n', '\r']

theorem queryMarks_subset : ['#', '\t', '\n', '\r'] ⊆ endMarks := by decide

theorem endMarks_foreign : ∀ c ∈ endMarks, c.isAlphanum = false ∧ c ≠ '-' ∧ c ≠ '_' ∧
    c.toNat < 128 ∧ c ≠ '=' ∧ Form.isEncoded c = false := by
  intro c hc
  simp only [endMarks, List.mem_cons, List.not_mem_nil, or_false] at hc
  rcases hc with rfl | rfl | rfl | rfl | rfl | rfl
  all_goals decide

/-- Nothing ends a pair whose name is plain. -/
theorem IsPlainName.not_mem_pair {name : String} (h : IsPlainName name) {c : Char}
    (hc : c ∈ endMarks) (value : String) : c ∉ (Form.pair name value).toList := by
  obtain ⟨halphanum, hhyphen, hunderscore, hascii, hequals, hencoded⟩ := endMarks_foreign c hc
  refine Form.not_mem_pair (fun hname => ?_) hequals hencoded
  rcases h c hname with h | h | h | h
  · rw [halphanum] at h
    cases h
  · exact hhyphen h
  · exact hunderscore h
  · omega

/-! ### The credential of one scheme -/

/-- A credential that is one header, one cookie or one pair of the query. -/
inductive Credential.Single : Credential → Prop where
  /-- A header. -/
  | header (name value : String) : Single ⟨[(.text name, value)], [], []⟩
  /-- A cookie. -/
  | cookie {name : String} (value : String) : IsPlainName name →
    Single ⟨[], [], [Form.pair name value]⟩
  /-- A pair of the query. -/
  | query {name : String} (value : String) : IsPlainName name →
    Single ⟨[], [Form.pair name value], []⟩

theorem single_authorization (value : String) : (authorization value).Single :=
  .header "Authorization" value

namespace Config

variable {config : Config} {location : Value} {d : Credential}

theorem single_of_keyAt {name key : String} (hname : IsPlainName name)
    (h : keyAt location (.text name) key = .ok d) : d.Single := by
  rcases keyAt_eq_ok h with rfl | ⟨written, hwritten, hd⟩
  · exact .header name key
  · obtain rfl : name = written := Except.ok.inj ((Value.written_text name).symm.trans hwritten)
    rcases hd with rfl | rfl
    · exact .cookie key hname
    · exact .query key hname

theorem single_of_map_authorization {header : Except Fault String}
    (h : header.map authorization = .ok d) : d.Single := by
  cases header with
  | error fault => cases h
  | ok value =>
    cases h
    exact single_authorization value

theorem single_of_httpCredential {subscheme : Value} (h : config.httpCredential subscheme = .ok d) :
    d.Single := by
  unfold httpCredential at h
  split at h
  · split at h
    · cases h
    · split at h
      · split at h
        · cases h
          exact single_authorization _
        · cases h
      · exact single_of_map_authorization h
  · cases h
  · exact single_of_map_authorization h
  · cases h

end Config

namespace Keyring

variable {τ : Type} {k : Keyring τ} {d : Credential} {t u : τ}

/-- The API keys of some schemes go by plain names. -/
def HasPlainKeys (k : Keyring τ) (names : List Value) : Prop :=
  ∀ name ∈ names, ∀ scheme location parameterName key, k.schemes.lookup name = .ok scheme →
    scheme.kind = .apiKey location parameterName →
    k.config.apiKeyNameFor parameterName = .ok key → ∃ s, key = .text s ∧ IsPlainName s

theorem single_of_token (h : k.token t = (.ok d, u)) : d.Single := by
  unfold token at h
  split at h
  · cases h
  · split at h
    · cases h
      exact single_authorization _
    · cases h

/-- What is built is an API key in its place, or a single credential. -/
theorem buildNamed_eq_ok {name : Value} (h : k.buildNamed name t = (.ok d, u)) :
    (∃ scheme location parameterName keyName key, k.schemes.lookup name = .ok scheme ∧
      scheme.kind = .apiKey location parameterName ∧
      k.config.apiKeyNameFor parameterName = .ok keyName ∧
      Config.keyAt location keyName key = .ok d) ∨ d.Single := by
  cases hlookup : k.schemes.lookup name with
  | error fault =>
    rw [buildNamed, hlookup] at h
    cases h
  | ok scheme =>
    rw [buildNamed_of_lookup hlookup, build] at h
    cases hkind : scheme.kind with
    | apiKey location parameterName =>
      rw [hkind] at h
      obtain ⟨keyName, hname, hkey⟩ := bind_eq_ok.mp (Prod.mk.inj h).1
      obtain ⟨key, -, hat⟩ := bind_eq_ok.mp hkey
      exact .inl ⟨scheme, location, parameterName, keyName, key, rfl, hkind, hname, hat⟩
    | http subscheme bearerFormat =>
      rw [hkind] at h
      exact .inr (Config.single_of_httpCredential (Prod.mk.inj h).1)
    | oauth2 flows =>
      rw [hkind] at h
      exact .inr (single_of_token h)
    | openIdConnect url =>
      rw [hkind] at h
      cases h

/-- Each scheme has one credential. -/
theorem single_of_buildNamed {names : List Value} (hplain : k.HasPlainKeys names) {name : Value}
    (hname : name ∈ names) (h : k.buildNamed name t = (.ok d, u)) : d.Single := by
  rcases buildNamed_eq_ok h with
    ⟨scheme, location, parameterName, keyName, key, hlookup, hkind, hkey, hat⟩ | hsingle
  · obtain ⟨s, rfl, hs⟩ :=
      hplain name hname scheme location parameterName keyName hlookup hkind hkey
    exact Config.single_of_keyAt hs hat
  · exact hsingle

theorem single_of_builds {names : List Value} (hplain : k.HasPlainKeys names)
    {ds : List Credential} (h : k.Builds names t ds u) : ∀ d ∈ ds, d.Single := by
  intro d hd
  obtain ⟨name, hname, s, v, hbuild⟩ := h.exists_of_mem hd
  exact single_of_buildNamed hplain hname hbuild

end Keyring

/-! ### What a request has -/

namespace Credential

/-- A credential is found on a request. -/
structure On (d : Credential) (request : Request) : Prop where
  /-- Its headers have their values. -/
  headers : ∀ name value, (.text name, value) ∈ d.headers → request.header? name = some value
  /-- Its cookies are items of the cookie header. -/
  cookies : ∀ cookie ∈ d.cookies, ∃ value, request.header? "Cookie" = some value ∧
    cookie.toList ∈ cookieItems value.toList
  /-- Its pairs stand between ampersands in the query. -/
  query : ∀ pair ∈ d.query, ∃ u, Url.split request.url.toList = .ok u ∧
    pair.toList ∈ u.query.splitOn '&'

/-- A header of a credential is set again with another value by one of the credentials behind it. -/
def Overridden (d : Credential) (behind : List Credential) : Prop :=
  ∃ name value, (.text name, value) ∈ d.headers ∧ ∃ e ∈ behind, ∃ name' value',
    (.text name', value') ∈ e.headers ∧ sameHeader name' name = true ∧ value' ≠ value

/-- A credential is a cookie header. -/
def IsCookieHeader (d : Credential) : Prop :=
  ∃ name value, (.text name, value) ∈ d.headers ∧ sameHeader "Cookie" name = true

variable {c d : Credential} {ds front back : List Credential} {request : Request}
  {headers : List (String × String)}

/-- The headers of a credential that are named by texts. -/
def namedHeaders (d : Credential) : List (String × String) :=
  d.headers.filterMap fun h => h.1.text?.map fun name => (name, h.2)

theorem Single.headers_eq (h : d.Single) : d.headers = d.namedHeaders.map named := by
  cases h with
  | header | cookie | query => rfl

theorem Single.eq_of_mem_headers (h : d.Single) {name value : String}
    (hmem : (.text name, value) ∈ d.headers) : d = ⟨[(.text name, value)], [], []⟩ := by
  cases h with
  | header => rw [List.mem_singleton.mp hmem]
  | cookie | query => cases hmem

theorem mem_headers_of_mem_namedHeaders {e : String × String} (h : e ∈ d.namedHeaders) :
    (.text e.1, e.2) ∈ d.headers := by
  obtain ⟨⟨name, value⟩, hmem, hnamed⟩ := List.mem_filterMap.mp h
  cases name with
  | text s =>
    cases hnamed
    exact hmem
  | _ => cases hnamed

/-- Single credentials that are merged set their headers one after the other. -/
theorem headers_of_single (h : ∀ d ∈ ds, d.Single) :
    (ds.foldl merge empty).headers = (ds.flatMap namedHeaders).map named := by
  rw [headers_foldl_merge, List.map_flatMap]
  exact List.flatMap_congr fun d hd => (h d hd).headers_eq

theorem Single.not_mem_cookies (h : d.Single) {c : Char} (hc : c ∈ endMarks) :
    ∀ cookie ∈ d.cookies, c ∉ cookie.toList := by
  cases h with
  | header | query => nofun
  | cookie value hname =>
    intro cookie hcookie
    obtain rfl := List.mem_singleton.mp hcookie
    exact hname.not_mem_pair hc value

theorem Single.not_mem_query (h : d.Single) {c : Char} (hc : c ∈ endMarks) :
    ∀ pair ∈ d.query, c ∉ pair.toList := by
  cases h with
  | header | cookie => nofun
  | query value hname =>
    intro pair hpair
    obtain rfl := List.mem_singleton.mp hpair
    exact hname.not_mem_pair hc value

theorem not_mem_cookies_of_single (h : ∀ d ∈ ds, d.Single) {c : Char} (hc : c ∈ endMarks) :
    ∀ cookie ∈ (ds.foldl merge empty).cookies, c ∉ cookie.toList := by
  rw [cookies_foldl_merge]
  intro cookie hcookie
  obtain ⟨d, hd, hcookie⟩ := List.mem_flatMap.mp hcookie
  exact (h d hd).not_mem_cookies hc cookie hcookie

theorem not_mem_query_of_single (h : ∀ d ∈ ds, d.Single) {c : Char} (hc : c ∈ endMarks) :
    ∀ pair ∈ (ds.foldl merge empty).query, c ∉ pair.toList := by
  rw [query_foldl_merge]
  intro pair hpair
  obtain ⟨d, hd, hpair⟩ := List.mem_flatMap.mp hpair
  exact (h d hd).not_mem_query hc pair hpair

/-! ### What stamping leaves -/

variable {address : Url}

/-- Named headers and an address that can be split are stamped. -/
theorem stamp_eq_ok (hheaders : c.headers = headers.map named)
    (haddress : Url.split request.url.toList = .ok address) :
    (c.stamp request).1 = .ok () ∧
      (∀ name, (c.stamp request).2.header? name =
        (stampCookies c.cookies (request.withHeaders headers)).header? name) ∧
      (c.query ≠ [] → (c.stamp request).2.url =
        String.ofList (address.addQuery (String.intercalate "&" c.query).toList).join) := by
  have hurl : Url.split (stampCookies c.cookies (request.withHeaders headers)).url.toList =
      .ok address := by
    rw [url_stampCookies, Request.url_withHeaders, haddress]
  rw [stamp_named hheaders, stampQuery_of_split hurl]
  refine ⟨rfl, fun name => ?_, fun hquery => ?_⟩
  · dsimp only
    split
    · rfl
    · rfl
  · rw [if_neg (by simpa using hquery)]

/-- A header that is not overridden has its value when all headers are set. -/
theorem header?_withHeaders_of_not_overridden {name value : String} (hds : ds = front ++ d :: back)
    (hd : d = ⟨[(.text name, value)], [], []⟩) (h : ¬d.Overridden back) :
    (request.withHeaders (ds.flatMap namedHeaders)).header? name = some value := by
  have hnamed : d.namedHeaders = [(name, value)] := by
    rw [hd]
    rfl
  have hall : ds.flatMap namedHeaders =
      front.flatMap namedHeaders ++ (name, value) :: back.flatMap namedHeaders := by
    rw [hds, List.flatMap_append, List.flatMap_cons, hnamed]
    rfl
  rw [hall, Request.withHeaders_append, Request.withHeaders_cons]
  refine Request.header?_withHeaders_of_agree
    (Request.header?_withHeader_of_same (sameHeader_refl name)) fun e he hsame => ?_
  obtain ⟨later, hlater, hmem⟩ := List.mem_flatMap.mp he
  by_contra hne
  refine h ⟨name, value, by simp [hd], later, hlater, e.1, e.2, ?_, hsame, hne⟩
  exact mem_headers_of_mem_namedHeaders hmem

/-- A cookie of single credentials is an item of the cookie header. -/
theorem mem_cookieItems_of_single (hsingle : ∀ d ∈ ds, d.Single) {cookie : String} (hd : d ∈ ds)
    (hcookie : cookie ∈ d.cookies) (request : Request) : ∃ value,
      (stampCookies (ds.foldl merge empty).cookies request).header? "Cookie" = some value ∧
        cookie.toList ∈ cookieItems value.toList := by
  have hmem : cookie ∈ (ds.foldl merge empty).cookies := by
    rw [cookies_foldl_merge]
    exact List.mem_flatMap.mpr ⟨d, hd, hcookie⟩
  refine ⟨_, header?_stampCookies (List.ne_nil_of_mem hmem) (sameHeader_refl _), ?_⟩
  exact mem_cookieItems_cookieValue hmem (not_mem_cookies_of_single hsingle (by decide)) _

/-- Pairs without ampersands stand between the ampersands of the query that they are added to. -/
theorem mem_splitOn_addQuery {pairs : List String} {pair : String} (hpair : pair ∈ pairs)
    (h : ∀ pair ∈ pairs, '&' ∉ pair.toList) (address : Url) :
    pair.toList ∈ (address.addQuery (String.intercalate "&" pairs).toList).query.splitOn '&' := by
  have hsplit : (String.intercalate "&" pairs).toList.splitOn '&' = pairs.map String.toList := by
    rw [String.toList_intercalate]
    refine List.splitOn_intercalate '&' ?_ ?_
    · intro part hpart
      obtain ⟨pair, hmem, rfl⟩ := List.mem_map.mp hpart
      exact h pair hmem
    · exact fun hnil => absurd (List.map_eq_nil_iff.mp hnil) (List.ne_nil_of_mem hpair)
  have hmem : pair.toList ∈ (String.intercalate "&" pairs).toList.splitOn '&' := by
    rw [hsplit]
    exact List.mem_map_of_mem hpair
  unfold Url.addQuery
  dsimp only
  split
  · exact hmem
  · rw [List.splitOn_append_cons_self]
    exact List.mem_append_right _ hmem

/-- A pair of single credentials stands in the query of the new address. -/
theorem mem_query_of_single (hsingle : ∀ d ∈ ds, d.Single) {pair : String} (hd : d ∈ ds)
    (hpair : pair ∈ d.query) (haddress : Url.split request.url.toList = .ok address)
    (hauthority : address.authority ≠ []) : ∃ u,
      Url.split (address.addQuery
        (String.intercalate "&" (ds.foldl merge empty).query).toList).join = .ok u ∧
          pair.toList ∈ u.query.splitOn '&' := by
  have hmem : pair ∈ (ds.foldl merge empty).query := by
    rw [query_foldl_merge]
    exact List.mem_flatMap.mpr ⟨d, hd, hpair⟩
  have htext : IsQueryText (String.intercalate "&" (ds.foldl merge empty).query) :=
    .intercalate fun pair hpair c hc =>
      not_mem_query_of_single hsingle (queryMarks_subset hc) pair hpair
  exact ⟨_, Url.split_addQuery haddress hauthority htext.not_mem htext.not_isDropped,
    mem_splitOn_addQuery hmem (not_mem_query_of_single hsingle (by decide)) address⟩

/-- A credential that is not overridden, and is no cookie header that cookies follow, is found on
the request. -/
theorem on_of_single (hds : ds = front ++ d :: back) (hsingle : ∀ d ∈ ds, d.Single)
    (haddress : Url.split request.url.toList = .ok address) (hauthority : address.authority ≠ [])
    (h : ¬d.Overridden back)
    (hcookie : d.IsCookieHeader → (ds.foldl merge empty).cookies = []) :
    d.On ((ds.foldl merge empty).stamp request).2 := by
  have hd : d ∈ ds := by simp [hds]
  obtain ⟨-, hheader, hurl⟩ := stamp_eq_ok (headers_of_single hsingle) haddress
  refine ⟨fun name value hmem => ?header, fun cookie hmem => ?cookie, fun pair hmem => ?query⟩
  case header =>
    have hset : (request.withHeaders (ds.flatMap namedHeaders)).header? name = some value :=
      header?_withHeaders_of_not_overridden hds ((hsingle d hd).eq_of_mem_headers hmem) h
    rw [hheader]
    cases hsame : sameHeader "Cookie" name with
    | true => rw [hcookie ⟨name, value, hmem, hsame⟩, stampCookies_nil, hset]
    | false => rw [header?_stampCookies_of_ne hsame, hset]
  case cookie =>
    rw [hheader]
    exact mem_cookieItems_of_single hsingle hd hmem _
  case query =>
    have hne : (ds.foldl merge empty).query ≠ [] := by
      rw [query_foldl_merge]
      exact List.ne_nil_of_mem (List.mem_flatMap.mpr ⟨d, hd, hmem⟩)
    rw [hurl hne, String.toList_ofList]
    exact mem_query_of_single hsingle hd hmem haddress hauthority

/-- Cookies follow a cookie header that is not overridden. -/
theorem header?_of_isCookieHeader (hds : ds = front ++ d :: back) (hsingle : ∀ d ∈ ds, d.Single)
    (haddress : Url.split request.url.toList = .ok address) (h : ¬d.Overridden back)
    (hcookies : (ds.foldl merge empty).cookies ≠ []) {name value : String}
    (hmem : (.text name, value) ∈ d.headers) (hsame : sameHeader "Cookie" name = true) :
    ((ds.foldl merge empty).stamp request).2.header? name =
      some (cookieValue (some value) (ds.foldl merge empty).cookies) := by
  have hd : d ∈ ds := by simp [hds]
  have hset : (request.withHeaders (ds.flatMap namedHeaders)).header? name = some value :=
    header?_withHeaders_of_not_overridden hds ((hsingle d hd).eq_of_mem_headers hmem) h
  rw [(stamp_eq_ok (headers_of_single hsingle) haddress).2.1,
    header?_stampCookies hcookies hsame, Request.header?_congr hsame, hset]

end Credential

namespace Authenticator

variable {τ : Type} {a : Authenticator} {bearer : Bearer τ} {request : Request}
  {path method : Option String} {before after : List Requirement} {r : Requirement}
  {names : List Value} {c : Credential} {address : Url} {t s u : τ}

/-- **All schemes of the alternative that is applied are found on the request.** Each of them has
one credential. A header has its value unless one of the same name behind it has another, and unless
it is the cookie header and is followed by cookies; the address is one with an authority, and the
API keys go by plain names. -/
theorem all_schemes_applied
    (hresolve : a.security.table.resolve path (method.filter (!·.isEmpty) <|> request.method) =
      .ok (before ++ r :: after))
    (hreached : firstSatisfiable (a.keyring bearer) before t = (.ok none, s))
    (hsorted : Value.sorted (r.map Prod.fst) = .ok names)
    (htry : (a.keyring bearer).tryRequirement r s = (.ok (.satisfied c), u))
    (hplain : (a.keyring bearer).HasPlainKeys (r.map Prod.fst))
    (haddress : Url.split request.url.toList = .ok address) (hauthority : address.authority ≠ []) :
    let d := a.decorate bearer request path method t
    (∃ notices, d.result = .ok notices) ∧
      ∃ ds, (a.keyring bearer).Builds (r.map Prod.fst) s ds u ∧
        ∀ front e back, ds = front ++ e :: back → e.Single ∧ (¬e.Overridden back →
          ((e.IsCookieHeader → ∀ l ∈ ds, l.cookies = []) → e.On d.request) ∧
          ∀ name value, (.text name, value) ∈ e.headers → sameHeader "Cookie" name = true →
            (∃ l ∈ ds, l.cookies ≠ []) → d.request.header? name =
              some (Credential.cookieValue (some value) (ds.flatMap Credential.cookies))) := by
  intro d
  obtain ⟨ds, hbuilds, rfl⟩ := Keyring.gather_eq_ok.mp (Keyring.credential_of_satisfied htry)
  have hsingle := Keyring.single_of_builds hplain hbuilds
  have hok := (Credential.stamp_eq_ok (Credential.headers_of_single hsingle) haddress).1
  have hvisible : d.visible = (ds.foldl Credential.merge .empty).stamp request :=
    visible_of_satisfied hresolve hreached hsorted htry
  have hrequest : d.request = ((ds.foldl Credential.merge .empty).stamp request).2 :=
    congrArg Prod.snd hvisible
  have hcookies : (ds.foldl Credential.merge .empty).cookies = ds.flatMap Credential.cookies :=
    Credential.cookies_foldl_merge
  refine ⟨?ok, ds, hbuilds, fun front e back hds => ?on⟩
  case ok =>
    have hresult : d.result.map (fun _ => ()) = .ok () := (congrArg Prod.fst hvisible).trans hok
    cases hd : d.result with
    | ok notices => exact ⟨notices, rfl⟩
    | error fault =>
      rw [hd] at hresult
      cases hresult
  case on =>
    refine ⟨hsingle e (by simp [hds]), fun hlast => ⟨fun hcookie => ?_, ?_⟩⟩
    · rw [hrequest]
      refine Credential.on_of_single hds hsingle haddress hauthority hlast fun his => ?_
      rw [hcookies]
      exact List.flatMap_eq_nil_iff.mpr (hcookie his)
    · rintro name value hmem hsame ⟨l, hl, hne⟩
      have hcookie : (ds.foldl Credential.merge .empty).cookies ≠ [] := by
        rw [hcookies]
        exact fun hnil => hne (List.flatMap_eq_nil_iff.mp hnil l hl)
      rw [hrequest, ← hcookies]
      exact Credential.header?_of_isCookieHeader hds hsingle haddress hlast hcookie hmem hsame

/-! ### A key in three places -/

/-- Schemes of many kinds, and an operation that asks for some of them. -/
def requiring (names : List String) : Authenticator where
  config := ⟨none, .none, none, some "u", some "p", some "T", none, some "K", [], none, none, none,
    none, .null, .int 0⟩
  security := {
    schemes := [(.text "bearer", ⟨.text "bearer", .null, .http (.text "bearer") .null⟩),
      (.text "basic", ⟨.text "basic", .null, .http (.text "basic") .null⟩),
      (.text "header", ⟨.text "header", .null, .apiKey (.text "header") (.text "X-Key")⟩),
      (.text "crumbs", ⟨.text "crumbs", .null, .apiKey (.text "header") (.text "Cookie")⟩),
      (.text "cookie", ⟨.text "cookie", .null, .apiKey (.text "cookie") (.text "c")⟩),
      (.text "query", ⟨.text "query", .null, .apiKey (.text "query") (.text "q")⟩)]
    table := ⟨[(⟨"/pets", "GET"⟩, [names.map fun name => (.text name, [])])], []⟩ }
  basePath := []

/-- What the operation asks for. -/
def required (names : List String) : Requirement := names.map fun name => (.text name, [])

theorem isNamed_required (names : List String) : (required names).IsNamed := by
  intro e he
  obtain ⟨name, -, rfl⟩ := List.mem_map.mp he
  exact ⟨name, rfl⟩

theorem resolve_requiring (names : List String) :
    (requiring names).security.table.resolve (some "/pets")
      ((none : Option String).filter (!·.isEmpty) <|> plainRequest.method) =
        .ok ([] ++ [required names]) := rfl

/-- The decorated request of the operation. -/
def satisfying (names : List String) : Decoration Nat :=
  (requiring names).decorate countedBearer plainRequest (some "/pets") none 0

theorem find?_of_lookup {schemes : Registry} {name : Value} {scheme : Scheme}
    (h : schemes.lookup name = .ok scheme) : schemes.find? name = some scheme := by
  unfold Registry.lookup at h
  split at h
  · cases h
  · split at h
    · rename_i hfind
      cases h
      exact hfind
    · obtain ⟨shown, -, h⟩ := bind_eq_ok.mp h
      cases h

theorem plain_requiring (names : List String) :
    ((requiring names).keyring countedBearer).HasPlainKeys ((required names).map Prod.fst) := by
  intro name hname scheme location parameterName key hlookup hkind hkey
  obtain ⟨e, he, rfl⟩ := List.mem_map.mp hname
  obtain ⟨s, hs⟩ := isNamed_required names e he
  rw [hs] at hlookup
  have hmem := mem_of_lookup (isExact_text s) (find?_of_lookup hlookup)
  simp only [keyring, requiring, List.mem_cons, Prod.mk.injEq, List.not_mem_nil, or_false] at hmem
  rcases hmem with ⟨-, rfl⟩ | ⟨-, rfl⟩ | ⟨-, rfl⟩ | ⟨-, rfl⟩ | ⟨-, rfl⟩ | ⟨-, rfl⟩
  all_goals cases hkind
  · exact ⟨"X-Key", (Except.ok.inj hkey).symm, isPlainName_of_all (by decide)⟩
  · exact ⟨"Cookie", (Except.ok.inj hkey).symm, isPlainName_of_all (by decide)⟩
  · exact ⟨"c", (Except.ok.inj hkey).symm, isPlainName_of_all (by decide)⟩
  · exact ⟨"q", (Except.ok.inj hkey).symm, isPlainName_of_all (by decide)⟩

/-- The credentials of a key in a header, a cookie and the query. -/
def keyInThreePlaces : List Credential :=
  [⟨[(.text "X-Key", "K")], [], []⟩, ⟨[], [], [Form.pair "c" "K"]⟩, ⟨[], [Form.pair "q" "K"], []⟩]

theorem builds_keyInThreePlaces :
    ((requiring ["header", "cookie", "query"]).keyring countedBearer).Builds
      ((required ["header", "cookie", "query"]).map Prod.fst) 0 keyInThreePlaces 0 :=
  .cons rfl (.cons rfl (.cons rfl .nil))

theorem eq_of_mem_keyInThreePlaces {d : Credential} (hd : d ∈ keyInThreePlaces)
    {name value : String} (h : (.text name, value) ∈ d.headers) : name = "X-Key" ∧ value = "K" := by
  simp only [keyInThreePlaces, List.mem_cons, List.not_mem_nil, or_false] at hd
  rcases hd with rfl | rfl | rfl
  · simpa using h
  · cases h
  · cases h

/-- A key is found in all its places. -/
theorem key_in_three_places :
    let request := (satisfying ["header", "cookie", "query"]).request
    Credential.On ⟨[(.text "X-Key", "K")], [], []⟩ request ∧
      Credential.On ⟨[], [], [Form.pair "c" "K"]⟩ request ∧
        Credential.On ⟨[], [Form.pair "q" "K"], []⟩ request := by
  intro request
  obtain ⟨names, hsorted⟩ := (isNamed_required ["header", "cookie", "query"]).sorted
  have htry : ((requiring ["header", "cookie", "query"]).keyring countedBearer).tryRequirement
      (required ["header", "cookie", "query"]) 0 =
        (.ok (.satisfied (keyInThreePlaces.foldl Credential.merge .empty)), 0) := rfl
  have haddress : Url.split plainRequest.url.toList =
      .ok ⟨"http".toList, "h".toList, "/pets".toList, [], []⟩ := rfl
  obtain ⟨-, ds, hbuilds, h⟩ := all_schemes_applied (resolve_requiring _) rfl hsorted htry
    (plain_requiring _) haddress (by decide)
  obtain rfl := builds_keyInThreePlaces.unique hbuilds
  have hall : ∀ d ∈ keyInThreePlaces, d.On request := by
    intro d hd
    obtain ⟨front, back, hds⟩ := List.append_of_mem hd
    obtain ⟨-, hfound⟩ := h front d back hds
    refine (hfound ?_).1 ?_
    · rintro ⟨name, value, hmem, e, he, name', value', hmem', -, hne⟩
      have he' : e ∈ keyInThreePlaces := by simp [hds, he]
      exact hne ((eq_of_mem_keyInThreePlaces he' hmem').2.trans
        (eq_of_mem_keyInThreePlaces hd hmem).2.symm)
    · rintro ⟨name, value, hmem, hsame⟩
      obtain ⟨rfl, -⟩ := eq_of_mem_keyInThreePlaces hd hmem
      exact absurd hsame (by decide)
  exact ⟨hall _ (.head _), hall _ (.tail _ (.head _)), hall _ (.tail _ (.tail _ (.head _)))⟩

/-! ### What is not found -/

/-- The credentials of a token and of a user. -/
def tokenAndUser : List Credential :=
  [authorization "Bearer T", authorization "Basic dTpw"]

theorem builds_tokenAndUser :
    ((requiring ["bearer", "basic"]).keyring countedBearer).Builds
      ((required ["bearer", "basic"]).map Prod.fst) 0 tokenAndUser 0 :=
  .cons rfl (.cons rfl .nil)

/-- The credentials of a key in a header for cookies and in a cookie. -/
def twoCookies : List Credential :=
  [⟨[(.text "Cookie", "K")], [], []⟩, ⟨[], [], [Form.pair "c" "K"]⟩]

theorem builds_twoCookies :
    ((requiring ["crumbs", "cookie"]).keyring countedBearer).Builds
      ((required ["crumbs", "cookie"]).map Prod.fst) 0 twoCookies 0 :=
  .cons rfl (.cons rfl .nil)

/-- What is stamped are the credentials that were built. -/
theorem visible_satisfying {names : List String} {ds : List Credential}
    (h : ((requiring names).keyring countedBearer).Builds ((required names).map Prod.fst) 0 ds 0) :
    (satisfying names).visible = (ds.foldl Credential.merge .empty).stamp plainRequest := by
  obtain ⟨sorted, hsorted⟩ := (isNamed_required names).sorted
  have hgather : ((requiring names).keyring countedBearer).credential (required names) 0 =
      (.ok (ds.foldl Credential.merge .empty), 0) := Keyring.gather_eq_ok.mpr ⟨ds, h, rfl⟩
  have htry : ((requiring names).keyring countedBearer).tryRequirement (required names) 0 =
      (.ok (.satisfied (ds.foldl Credential.merge .empty)), 0) := by
    rw [Keyring.tryRequirement, hgather]
    rfl
  exact visible_of_satisfied (resolve_requiring names) rfl hsorted htry

theorem visible_tokenAndUser : (satisfying ["bearer", "basic"]).visible =
    (.ok (), { plainRequest with headers := [("Authorization", "Basic dTpw")] }) :=
  (visible_satisfying builds_tokenAndUser).trans rfl

theorem visible_twoCookies : (satisfying ["crumbs", "cookie"]).visible =
    (.ok (), { plainRequest with headers := [("Cookie", "K; " ++ Form.pair "c" "K")] }) :=
  (visible_satisfying builds_twoCookies).trans rfl

/-- **Not all schemes need to be found**: the token is lost to the user behind it, and cookies
follow the header for cookies. -/
theorem schemes_not_all_found :
    (((requiring ["bearer", "basic"]).keyring countedBearer).Builds
        ((required ["bearer", "basic"]).map Prod.fst) 0 tokenAndUser 0 ∧
      ∃ d ∈ tokenAndUser, ¬d.On (satisfying ["bearer", "basic"]).request) ∧
    ((requiring ["crumbs", "cookie"]).keyring countedBearer).Builds
        ((required ["crumbs", "cookie"]).map Prod.fst) 0 twoCookies 0 ∧
      ∃ d ∈ twoCookies, ¬d.On (satisfying ["crumbs", "cookie"]).request := by
  have htoken : (satisfying ["bearer", "basic"]).request =
      { plainRequest with headers := [("Authorization", "Basic dTpw")] } :=
    congrArg Prod.snd visible_tokenAndUser
  have hcookies : (satisfying ["crumbs", "cookie"]).request =
      { plainRequest with headers := [("Cookie", "K; " ++ Form.pair "c" "K")] } :=
    congrArg Prod.snd visible_twoCookies
  refine ⟨⟨builds_tokenAndUser, _, .head _, fun h => ?_⟩,
    builds_twoCookies, _, .head _, fun h => ?_⟩
  · have hvalue := h.headers "Authorization" "Bearer T" (.head _)
    rw [htoken] at hvalue
    revert hvalue
    decide
  · have hvalue := h.headers "Cookie" "K" (.head _)
    rw [hcookies] at hvalue
    revert hvalue
    decide

end Authenticator

end RequestAuth
