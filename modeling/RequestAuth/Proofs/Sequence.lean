import RequestAuth.Proofs.Conjunction
import RequestAuth.Proofs.Reorder

/-!
# Stamping at once and one after the other

Credentials that are merged and stamped at once come to the same as credentials that are stamped one
after the other: the same address, and the same headers in some order. Each of the three steps of
stamping is made up of those of the single credentials, and the steps of one credential may change
places with those of the next as long as that one does not set the cookie header itself.
-/

namespace RequestAuth

/-- Two stampings come to the same: they end in the same fault, or they leave the same address and,
in some order, the same headers. -/
structure StampedSame (x y : Except Fault Unit × Request) : Prop where
  /-- Both end in the same fault, or neither does in one. -/
  result : y.1 = x.1
  /-- Without a fault the address is the same. -/
  url : x.1 = .ok () → y.2.url = x.2.url
  /-- Without a fault the headers are the same, with their spelling. -/
  headers : x.1 = .ok () → x.2.headers.Perm y.2.headers

theorem StampedAlike.same {x y : Except Fault Unit × Request} (h : StampedAlike x y) :
    StampedSame x y :=
  ⟨h.result, fun hx => (h.request hx).url, fun hx => (h.request hx).headers.perm⟩

namespace Credential

/-! ### One after the other -/

/-- Stamp a credential onto what a stamping left. A fault ends it. -/
def stampNext : Except Fault Unit × Request → Credential → Except Fault Unit × Request
  | (.ok (), r), d => d.stamp r
  | (.error fault, r), _ => (.error fault, r)

/-- Stamp credentials one after the other. -/
def stampEach (ds : List Credential) (r : Request) : Except Fault Unit × Request :=
  ds.foldl stampNext (.ok (), r)

/-- The pairs for the query and the cookies have characters. -/
structure IsFilled (c : Credential) : Prop where
  /-- No pair for the query is empty. -/
  query : ∀ pair ∈ c.query, pair ≠ ""
  /-- No cookie is empty. -/
  cookies : ∀ cookie ∈ c.cookies, cookie ≠ ""

/-- The pairs for the query may stand there. -/
def HasQueryTexts (c : Credential) : Prop := ∀ pair ∈ c.query, IsQueryText pair

variable {c d : Credential} {r : Request} {cookies query more : List String}
  {settings : List (String × String)} {address : Url}

theorem IsFilled.merge (hc : c.IsFilled) (hd : d.IsFilled) : (c.merge d).IsFilled :=
  ⟨List.forall_mem_append.mpr ⟨hc.query, hd.query⟩,
    List.forall_mem_append.mpr ⟨hc.cookies, hd.cookies⟩⟩

theorem HasQueryTexts.merge (hc : c.HasQueryTexts) (hd : d.HasQueryTexts) :
    (c.merge d).HasQueryTexts :=
  List.forall_mem_append.mpr ⟨hc, hd⟩

/-- Texts with characters make up a text with characters. -/
theorem intercalate_ne_empty {sep : String} {parts : List String} (hne : parts ≠ [])
    (h : ∀ part ∈ parts, part ≠ "") : String.intercalate sep parts ≠ "" := by
  obtain ⟨part, parts, rfl⟩ := List.exists_cons_of_ne_nil hne
  have hpart := h part (.head _)
  cases parts with
  | nil => simpa using hpart
  | cons next parts =>
    rw [String.intercalate_cons_cons]
    simp [hpart]

/-! ### Cookies -/

theorem cookieValue_ne_empty (hne : cookies ≠ []) (h : ∀ cookie ∈ cookies, cookie ≠ "")
    (old : Option String) : cookieValue old cookies ≠ "" := by
  have hadded : String.intercalate "; " cookies ≠ "" := intercalate_ne_empty hne h
  unfold cookieValue
  dsimp only
  split
  · simp
  · exact hadded

/-- Cookies behind cookies are those of both. -/
theorem cookieValue_append (hne : cookies ≠ []) (h : ∀ cookie ∈ cookies, cookie ≠ "")
    (hmore : more ≠ []) (old : Option String) :
    cookieValue (some (cookieValue old cookies)) more = cookieValue old (cookies ++ more) := by
  rw [cookieValue_of_filled (cookieValue_ne_empty hne h old)]
  by_cases hold : ∀ s, old = some s → s = ""
  · rw [cookieValue_of_empty hold, cookieValue_of_empty hold,
      String.intercalate_append_of_ne_nil hne hmore]
  · obtain ⟨s, rfl, hs⟩ : ∃ s, old = some s ∧ s ≠ "" := by simpa using hold
    rw [cookieValue_of_filled hs, cookieValue_of_filled hs,
      String.intercalate_append_of_ne_nil hne hmore]
    simp only [String.append_assoc]

/-- Cookies that are stamped one after the other are stamped at once. -/
theorem stampCookies_stampCookies (h : ∀ cookie ∈ cookies, cookie ≠ "") (more : List String)
    (r : Request) :
    stampCookies more (stampCookies cookies r) = stampCookies (cookies ++ more) r := by
  by_cases hne : cookies = []
  · rw [hne]
    rfl
  by_cases hmore : more = []
  · rw [hmore, List.append_nil]
    rfl
  unfold stampCookies
  rw [if_neg (by simpa using hmore), if_neg (by simpa using hne), if_neg (by simp [hne]),
    Request.header?_withHeader_of_same (sameHeader_refl _), cookieValue_append hne h hmore,
    Request.withHeader_withHeader (sameHeader_refl _)]

/-- Cookies may be stamped before or after other headers are set. -/
theorem alike_stampCookies_withHeaders (h : ∀ e ∈ settings, sameHeader "Cookie" e.1 = false)
    (cookies : List String) (r : Request) :
    (stampCookies cookies (r.withHeaders settings)).Alike
      ((stampCookies cookies r).withHeaders settings) := by
  have hothers : ∀ e ∈ settings, sameHeader e.1 "Cookie" = false := fun e he =>
    (sameHeader_comm _ _).trans (h e he)
  unfold stampCookies
  split
  · exact .refl _
  · rw [Request.header?_withHeaders_of_unnamed hothers]
    exact .withHeaders_comm h _ r

/-! ### The address -/

/-- The address may be changed before or after headers and cookies are set. -/
theorem stampCookies_withUrl (cookies : List String) (settings : List (String × String))
    (url : String) (r : Request) :
    stampCookies cookies ({ r with url }.withHeaders settings) =
      { stampCookies cookies (r.withHeaders settings) with url } := by
  induction settings generalizing r with
  | nil =>
    unfold stampCookies
    split
    · rfl
    · rfl
  | cons e settings ih => exact ih (r.withHeader e.1 e.2)

/-- The query may be stamped before or after headers and cookies. -/
theorem stampQuery_comm (h : Url.split r.url.toList = .ok address) (query cookies : List String)
    (settings : List (String × String)) :
    stampQuery query (stampCookies cookies (r.withHeaders settings)) =
      (.ok (), stampCookies cookies ((stampQuery query r).2.withHeaders settings)) := by
  have hurl : Url.split (stampCookies cookies (r.withHeaders settings)).url.toList =
      .ok address := by
    rw [url_stampCookies, Request.url_withHeaders, h]
  rw [stampQuery_of_split hurl, stampQuery_of_split h]
  split
  · rfl
  · exact congrArg (Prod.mk _) (stampCookies_withUrl cookies settings _ r).symm

/-- Pairs that are stamped one after the other are stamped at once. -/
theorem stampQuery_stampQuery (h : Url.split r.url.toList = .ok address)
    (hauthority : address.authority ≠ []) (hfilled : ∀ pair ∈ query, pair ≠ "")
    (htexts : ∀ pair ∈ query, IsQueryText pair) (more : List String) :
    stampQuery more (stampQuery query r).2 = stampQuery (query ++ more) r := by
  by_cases hne : query = []
  · rw [hne]
    rfl
  by_cases hmore : more = []
  · rw [hmore, List.append_nil, stampQuery_of_split h]
    rfl
  rw [stampQuery_of_split h, if_neg (by simpa using hne), stampQuery, if_neg (by simpa using hmore),
    stampQuery, if_neg (by simp [hne]), String.intercalate_append_of_ne_nil hne hmore]
  dsimp only
  rw [appendQuery_appendQuery h hauthority (.intercalate htexts)
    (intercalate_ne_empty hne hfilled), appendQuery_of_split h]

/-! ### Two credentials -/

theorem stampedAlike_stampNext {x y : Except Fault Unit × Request} (h : StampedAlike x y)
    (d : Credential) : StampedAlike (stampNext x d) (stampNext y d) := by
  obtain ⟨fault | _, r⟩ := x
  · obtain ⟨result, r'⟩ := y
    obtain rfl : result = .error fault := h.result
    exact ⟨rfl, nofun⟩
  · obtain ⟨result, r'⟩ := y
    obtain rfl : result = .ok () := h.result
    exact alike_stamp (h.request rfl) d

variable {first second : List (String × String)}

theorem stampNext_of_ok (h : (c.stamp r).1 = .ok ()) (d : Credential) :
    stampNext (c.stamp r) d = d.stamp (c.stamp r).2 := by
  have hstamp : c.stamp r = (.ok (), (c.stamp r).2) := Prod.ext h rfl
  rw [hstamp]
  rfl

/-- Of two credentials with named headers that are stamped one after the other, the pairs for the
query are stamped at once, behind the headers and the cookies of both. -/
theorem stampNext_of_named (hfirst : c.headers = first.map named)
    (hsecond : d.headers = second.map named) (h : Url.split r.url.toList = .ok address)
    (hauthority : address.authority ≠ []) (hfilled : c.IsFilled) (htexts : c.HasQueryTexts) :
    stampNext (c.stamp r) d = stampQuery (c.query ++ d.query) (stampCookies d.cookies
      ((stampCookies c.cookies (r.withHeaders first)).withHeaders second)) := by
  have hstamped : Url.split (stampCookies c.cookies (r.withHeaders first)).url.toList =
      .ok address := by
    rw [url_stampCookies, Request.url_withHeaders, h]
  have hboth : Url.split (stampCookies d.cookies ((stampCookies c.cookies
      (r.withHeaders first)).withHeaders second)).url.toList = .ok address := by
    rw [url_stampCookies, Request.url_withHeaders, hstamped]
  rw [stampNext_of_ok (stamp_eq_ok hfirst h).1, stamp_named hsecond, stamp_named hfirst,
    ← stampQuery_stampQuery hboth hauthority hfilled.query htexts d.query,
    stampQuery_comm hstamped]

/-- Two credentials with named headers come to the same when they are merged and stamped at once as
when they are stamped one after the other. -/
theorem stampedAlike_merge_of_named (hfirst : c.headers = first.map named)
    (hsecond : d.headers = second.map named) (h : Url.split r.url.toList = .ok address)
    (hauthority : address.authority ≠ []) (hfilled : c.IsFilled) (htexts : c.HasQueryTexts)
    (hcookie : ¬d.IsCookieHeader) :
    StampedAlike (stampNext (c.stamp r) d) ((c.merge d).stamp r) := by
  have hothers : ∀ e ∈ second, sameHeader "Cookie" e.1 = false := by
    intro e he
    rw [Bool.eq_false_iff]
    exact fun hsame => hcookie ⟨e.1, e.2, hsecond ▸ List.mem_map_of_mem he, hsame⟩
  have hmerged : (c.merge d).headers = (first ++ second).map named := by
    rw [headers_merge, hfirst, hsecond, List.map_append]
  -- the cookies of the first one change places with the headers of the second one
  have hcookies := alike_stampCookies_withHeaders hothers c.cookies (r.withHeaders first)
  rw [stampNext_of_named hfirst hsecond h hauthority hfilled htexts, stamp_named hmerged,
    query_merge, cookies_merge, ← stampCookies_stampCookies hfilled.cookies,
    Request.withHeaders_append]
  exact alike_stampQuery (alike_stampCookies hcookies.symm d.cookies) _

/-- Two credentials come to the same when they are merged and stamped at once as when they are
stamped one after the other. -/
theorem stampedAlike_merge (h : Url.split r.url.toList = .ok address)
    (hauthority : address.authority ≠ []) (hfilled : c.IsFilled) (htexts : c.HasQueryTexts)
    (hcookie : ¬d.IsCookieHeader) :
    StampedAlike (stampNext (c.stamp r) d) ((c.merge d).stamp r) := by
  rcases named_or_unnamed c.headers with
    ⟨first, hfirst⟩ | ⟨first, name, value, back, hfirst, hname⟩
  · rcases named_or_unnamed d.headers with
      ⟨second, hsecond⟩ | ⟨second, name, value, back, hsecond, hname⟩
    · exact stampedAlike_merge_of_named hfirst hsecond h hauthority hfilled htexts hcookie
    · have hmerged : (c.merge d).headers =
          (first ++ second).map named ++ (name, value) :: back := by
        rw [headers_merge, hfirst, hsecond, List.map_append, List.append_assoc]
      rw [stampNext_of_ok (stamp_eq_ok hfirst h).1, stamp_eq_error.mpr (.header hsecond hname),
        stamp_eq_error.mpr (.header hmerged hname)]
      exact ⟨rfl, nofun⟩
  · have hmerged : (c.merge d).headers =
        first.map named ++ (name, value) :: (back ++ d.headers) := by
      rw [headers_merge, hfirst, List.append_assoc, List.cons_append]
    rw [stamp_eq_error.mpr (.header hfirst hname), stamp_eq_error.mpr (.header hmerged hname)]
    exact ⟨rfl, nofun⟩

/-! ### Any number of credentials -/

variable {ds : List Credential}

theorem stampedAlike_foldl {x y : Except Fault Unit × Request} (h : StampedAlike x y)
    (ds : List Credential) : StampedAlike (ds.foldl stampNext x) (ds.foldl stampNext y) := by
  induction ds generalizing x y with
  | nil => exact h
  | cons d ds ih => exact ih (stampedAlike_stampNext h d)

/-- The same holds of any number of credentials behind a first one. -/
theorem stampedAlike_foldl_merge (h : Url.split r.url.toList = .ok address)
    (hauthority : address.authority ≠ []) (hfilled : c.IsFilled) (htexts : c.HasQueryTexts)
    (hds : ∀ d ∈ ds, d.IsFilled ∧ d.HasQueryTexts ∧ ¬d.IsCookieHeader) :
    StampedAlike (ds.foldl stampNext (c.stamp r)) ((ds.foldl merge c).stamp r) := by
  induction ds generalizing c with
  | nil => exact .refl _
  | cons d ds ih =>
    obtain ⟨⟨hd, hdtexts, hcookie⟩, hds⟩ := List.forall_mem_cons.mp hds
    -- the first two are merged, and the others are stamped behind them
    have hpair := stampedAlike_merge h hauthority hfilled htexts hcookie
    exact (stampedAlike_foldl hpair ds).trans (ih (hfilled.merge hd) (htexts.merge hdtexts) hds)

theorem empty_merge (d : Credential) : empty.merge d = d := rfl

theorem stampedAlike_stampEach (h : Url.split r.url.toList = .ok address)
    (hauthority : address.authority ≠ [])
    (hds : ∀ d ∈ ds, d.IsFilled ∧ d.HasQueryTexts) (hcookie : ∀ d ∈ ds.tail, ¬d.IsCookieHeader) :
    StampedAlike (stampEach ds r) ((ds.foldl merge empty).stamp r) := by
  cases ds with
  | nil => exact .refl _
  | cons c ds =>
    obtain ⟨⟨hfilled, htexts⟩, hds⟩ := List.forall_mem_cons.mp hds
    rw [List.foldl_cons, empty_merge]
    exact stampedAlike_foldl_merge h hauthority hfilled htexts fun d hd =>
      ⟨(hds d hd).1, (hds d hd).2, hcookie d hd⟩

/-! ### Names and pairs -/

/-- The headers are named by texts. -/
def HasNamedHeaders (c : Credential) : Prop :=
  ∃ settings : List (String × String), c.headers = settings.map named

theorem HasNamedHeaders.merge (hc : c.HasNamedHeaders) (hd : d.HasNamedHeaders) :
    (c.merge d).HasNamedHeaders := by
  obtain ⟨first, hfirst⟩ := hc
  obtain ⟨second, hsecond⟩ := hd
  exact ⟨first ++ second, by rw [headers_merge, hfirst, hsecond, List.map_append]⟩

theorem HasNamedHeaders.foldl_merge (hc : c.HasNamedHeaders)
    (hds : ∀ d ∈ ds, d.HasNamedHeaders) : (ds.foldl Credential.merge c).HasNamedHeaders := by
  induction ds generalizing c with
  | nil => exact hc
  | cons d ds ih =>
    obtain ⟨hd, hds⟩ := List.forall_mem_cons.mp hds
    exact ih (hc.merge hd) hds

theorem HasNamedHeaders.stamp_eq_ok (hc : c.HasNamedHeaders)
    (h : Url.split r.url.toList = .ok address) : (c.stamp r).1 = .ok () := by
  obtain ⟨settings, hsettings⟩ := hc
  exact (Credential.stamp_eq_ok hsettings h).1

theorem Single.hasQueryTexts (h : d.Single) : d.HasQueryTexts := fun pair hpair _ hc =>
  h.not_mem_query (queryMarks_subset hc) pair hpair

theorem Single.isFilled (h : d.Single) : d.IsFilled := by
  cases h with
  | header => exact ⟨nofun, nofun⟩
  | cookie value _ => exact ⟨nofun, List.forall_mem_singleton.mpr Form.pair_ne_empty⟩
  | query value _ => exact ⟨List.forall_mem_singleton.mpr Form.pair_ne_empty, nofun⟩

end Credential

namespace Keyring

variable {τ : Type} {k : Keyring τ} {c d : Credential} {name : Value} {t u : τ}

/-- What is built has characters in all its pairs. -/
theorem filled_of_buildNamed (h : k.buildNamed name t = (.ok d, u)) : d.IsFilled := by
  rcases buildNamed_eq_ok h with ⟨scheme, location, parameterName, keyName, key, -, -, -, hat⟩ | h
  · rcases Config.keyAt_eq_ok hat with rfl | ⟨written, -, rfl | rfl⟩
    · exact ⟨nofun, nofun⟩
    · exact ⟨nofun, List.forall_mem_singleton.mpr Form.pair_ne_empty⟩
    · exact ⟨List.forall_mem_singleton.mpr Form.pair_ne_empty, nofun⟩
  · exact h.isFilled

/-! ### At once as one after the other -/

variable {request : Request} {address : Url}

/-- **Merged credentials are stamped as if they were stamped one after the other**, and so are those
of the schemes of an alternative, however many there are. The address is one with an authority, the
pairs for the query may stand there, and only the first credential may set the cookie header. Both
succeed when all headers are named by texts. -/
theorem stamped_at_once_as_in_sequence (haddress : Url.split request.url.toList = .ok address)
    (hauthority : address.authority ≠ []) :
    (∀ c d : Credential, c.IsFilled → c.HasQueryTexts → ¬d.IsCookieHeader →
      StampedSame (Credential.stampNext (c.stamp request) d) ((c.merge d).stamp request) ∧
        (c.HasNamedHeaders → d.HasNamedHeaders → ((c.merge d).stamp request).1 = .ok ())) ∧
    ∀ (r : Requirement) (c : Credential) (t u : τ),
      k.tryRequirement r t = (.ok (.satisfied c), u) →
        ∃ ds, k.Builds (r.map Prod.fst) t ds u ∧ c = ds.foldl Credential.merge .empty ∧
          ((∀ d ∈ ds, d.HasQueryTexts) → (∀ d ∈ ds.tail, ¬d.IsCookieHeader) →
            StampedSame (Credential.stampEach ds request)
                ((k.apply r request t).1, (k.apply r request t).2.1) ∧
              ((∀ d ∈ ds, d.HasNamedHeaders) → (k.apply r request t).1 = .ok ())) := by
  refine ⟨fun c d hfilled htexts hcookie => ⟨?two, fun hc hd => ?twoOk⟩, fun r c t u htry => ?all⟩
  case two =>
    exact (Credential.stampedAlike_merge haddress hauthority hfilled htexts hcookie).same
  case twoOk => exact (hc.merge hd).stamp_eq_ok haddress
  case all =>
    obtain ⟨ds, hbuilds, rfl⟩ := gather_eq_ok.mp (credential_of_satisfied htry)
    refine ⟨ds, hbuilds, rfl, fun htexts hcookie => ?_⟩
    rw [apply_of_satisfied htry]
    refine ⟨?_, fun hnamed => ?_⟩
    · refine (Credential.stampedAlike_stampEach haddress hauthority (fun d hd => ?_) hcookie).same
      obtain ⟨name, -, s, v, hbuild⟩ := hbuilds.exists_of_mem hd
      exact ⟨filled_of_buildNamed hbuild, htexts d hd⟩
    · exact (Credential.HasNamedHeaders.foldl_merge ⟨[], rfl⟩ hnamed).stamp_eq_ok haddress

end Keyring

namespace Authenticator

/-! ### Headers in two orders -/

/-- A credential with a header, a pair for the query and a cookie. -/
def firstKey : Credential := ⟨[(.text "X-Key", "a")], ["q=1"], ["c=1"]⟩

/-- A credential that sets the same header in another spelling, and has others of each kind. -/
def secondKey : Credential := ⟨[(.text "x-key", "b"), (.text "X-Who", "o")], ["r=2"], ["d=2"]⟩

/-- A request with a query, a fragment and a header. -/
def queriedRequest : Request := ⟨"http://h/pets?p#f", some "GET", [("Accept", "*")], 0⟩

/-- The two keys and those of three schemes are stamped at once as one after the other. In the
sequence of the two the cookies stand in front of a header that they stand behind otherwise. -/
theorem two_keys_stamped :
    (Credential.stampNext (firstKey.stamp queriedRequest) secondKey =
        (.ok (), { queriedRequest with
          url := "http://h/pets?p&q=1&r=2#f",
          headers := [("Accept", "*"), ("x-key", "b"), ("Cookie", "c=1; d=2"), ("X-Who", "o")] }) ∧
      StampedSame (Credential.stampNext (firstKey.stamp queriedRequest) secondKey)
        ((firstKey.merge secondKey).stamp queriedRequest) ∧
      ((firstKey.merge secondKey).stamp queriedRequest).1 = .ok ()) ∧
    let k := (requiring ["header", "cookie", "query"]).keyring countedBearer
    let applied := k.apply (required ["header", "cookie", "query"]) queriedRequest 0
    StampedSame (Credential.stampEach keyInThreePlaces queriedRequest) (applied.1, applied.2.1) ∧
      applied.1 = .ok () := by
  have haddress : Url.split queriedRequest.url.toList =
      .ok ⟨"http".toList, "h".toList, "/pets".toList, "p".toList, "f".toList⟩ := rfl
  have htry : ((requiring ["header", "cookie", "query"]).keyring countedBearer).tryRequirement
      (required ["header", "cookie", "query"]) 0 =
        (.ok (.satisfied (keyInThreePlaces.foldl Credential.merge .empty)), 0) := rfl
  obtain ⟨htwo, hall⟩ := Keyring.stamped_at_once_as_in_sequence haddress (by decide)
  obtain ⟨ds, hbuilds, -, h⟩ := hall _ _ _ _ htry
  obtain rfl := builds_keyInThreePlaces.unique hbuilds
  have hsingle := Keyring.single_of_builds (plain_requiring _) hbuilds
  have hothers : ∀ d ∈ keyInThreePlaces.tail, ¬d.IsCookieHeader := by
    rintro d hd ⟨name, value, hmem, -⟩
    rcases List.mem_cons.mp hd with rfl | hd
    · cases hmem
    · cases List.mem_singleton.mp hd
      cases hmem
  obtain ⟨hsame, hok⟩ := h (fun d hd => (hsingle d hd).hasQueryTexts) hothers
  refine ⟨⟨rfl, ?_⟩, hsame, hok fun d hd => ⟨d.namedHeaders, (hsingle d hd).headers_eq⟩⟩
  have htexts : firstKey.HasQueryTexts := List.forall_mem_singleton.mpr (by decide)
  have hother : ¬secondKey.IsCookieHeader := by
    rintro ⟨name, value, hmem, hsame⟩
    rcases List.mem_cons.mp hmem with heq | hmem
    · cases heq
      revert hsame
      decide
    · cases List.mem_singleton.mp hmem
      revert hsame
      decide
  obtain ⟨hsame, hok⟩ := htwo firstKey secondKey
    ⟨List.forall_mem_singleton.mpr (by decide), List.forall_mem_singleton.mpr (by decide)⟩
    htexts hother
  exact ⟨hsame, hok ⟨[("X-Key", "a")], rfl⟩ ⟨[("x-key", "b"), ("X-Who", "o")], rfl⟩⟩

end Authenticator

end RequestAuth
