import RequestAuth.Proofs.Conjunction
import RequestAuth.Proofs.Places

/-!
# What a decoration leaves as it is

Cookies are one more header that is set, so stamping is a run of settings, and then a query for the
address. What the settings leave as they are is therefore known from their names (`Framed`), and what
a decoration leaves as it is from the credentials that it applies, which are none if nothing is
stamped (`Applies`).
-/

namespace RequestAuth

namespace Credential

/-- Some credentials set a header, by its name or with their cookies. -/
def Sets (c : Credential) (name : String) : Prop :=
  (∃ other value, (Value.text other, value) ∈ c.headers ∧ sameHeader other name = true) ∨
    (c.cookies ≠ [] ∧ sameHeader "Cookie" name = true)

/-- What credentials leave as it is, and what they put where, when they are stamped. -/
structure Framed (c : Credential) (before after : Request) : Prop where
  /-- Without a query the address stays as it is. -/
  url : c.query = [] → after.url = before.url
  /-- The method stays as it is. -/
  method : after.method = before.method
  /-- No hook is added. -/
  hooks : after.hooks = before.hooks
  /-- No header is removed. -/
  places : KeepsPlaces before.headers after.headers
  /-- The names stay distinct. -/
  distinct : HasDistinctNames before.headers → HasDistinctNames after.headers
  /-- A header that is not set stays as it is, in its place. -/
  kept : ∀ (i : Nat) (name value : String), before.headers[i]? = some (name, value) →
    ¬ c.Sets name → after.headers[i]? = some (name, value)
  /-- All other headers are among those that are set. -/
  added : ∀ name value, (name, value) ∈ after.headers →
    (name, value) ∈ before.headers ∨ c.Sets name
  /-- A header that is set last has the new value and the new spelling, in its old place. -/
  set : ∀ front name value back, c.headers = front ++ (.text name, value) :: back →
    ¬ (Credential.mk back [] c.cookies).Sets name →
      after.headers[placeOf after.headers name]? = some (name, value) ∧
        (placeOf before.headers name < before.headers.length →
          placeOf after.headers name = placeOf before.headers name)
  /-- Cookies stand behind the old ones. -/
  appended : c.cookies ≠ [] → ¬ (Credential.mk c.headers [] []).Sets "Cookie" →
    ∀ old, before.header? "Cookie" = some old → old ≠ "" →
      after.header? "Cookie" = some (old ++ "; " ++ String.intercalate "; " c.cookies)
  /-- Without old cookies they stand alone. -/
  begun : c.cookies ≠ [] → ¬ (Credential.mk c.headers [] []).Sets "Cookie" →
    (∀ old, before.header? "Cookie" = some old → old = "") →
      after.header? "Cookie" = some (String.intercalate "; " c.cookies)

variable {c : Credential} {r r' : Request} {headers : List (String × String)}
  {cookies query : List String}

/-! ### Stamping as a run of settings -/

/-- Cookies as a header to set. -/
def cookieHeaders (cookies : List String) (r : Request) : List (String × String) :=
  if cookies.isEmpty then [] else [("Cookie", cookieValue (r.header? "Cookie") cookies)]

theorem stampCookies_eq_withHeaders (cookies : List String) (r : Request) :
    stampCookies cookies r = r.withHeaders (cookieHeaders cookies r) := by
  unfold stampCookies cookieHeaders
  split
  · rfl
  · rfl

theorem eq_of_mem_cookieHeaders {e : String × String} (h : e ∈ cookieHeaders cookies r) :
    cookies ≠ [] ∧ e.1 = "Cookie" := by
  unfold cookieHeaders at h
  split at h
  · cases h
  · rename_i hne
    rw [List.mem_singleton.mp h]
    exact ⟨by simpa using hne, rfl⟩

/-- Adding a query changes the address at most, and nothing if there is no query. -/
theorem stampQuery_eq_ok (h : stampQuery query r = (.ok (), r')) :
    (∃ url, r' = { r with url }) ∧ (query = [] → r' = r) := by
  unfold stampQuery at h
  split at h
  · cases h
    exact ⟨⟨r.url, rfl⟩, fun _ => rfl⟩
  · rename_i hne
    split at h
    · cases h
      exact ⟨⟨_, rfl⟩, fun hquery => absurd (by simp [hquery]) hne⟩
    · cases h

/-- Stamping without a fault is a run of settings, and a query for the address. -/
theorem exists_settings (h : c.stamp r = (.ok (), r')) :
    ∃ headers url, c.headers = headers.map named ∧
      r' = { r.withHeaders (headers ++ cookieHeaders c.cookies (r.withHeaders headers)) with url } ∧
      (c.query = [] → url = r.url) := by
  rcases named_or_unnamed c.headers with
    ⟨headers, hnamed⟩ | ⟨headers, name, value, back, hheaders, hname⟩
  · rw [stamp_named hnamed, stampCookies_eq_withHeaders, ← Request.withHeaders_append] at h
    obtain ⟨⟨url, rfl⟩, hquery⟩ := stampQuery_eq_ok h
    refine ⟨headers, url, hnamed, rfl, fun hempty => ?_⟩
    have hsame := congrArg Request.url (hquery hempty)
    rwa [Request.url_withHeaders] at hsame
  · unfold stamp at h
    rw [hheaders, stampHeaders_append, stampHeaders_unnamed hname] at h
    cases h

/-! ### What the settings leave as it is -/

/-- A setting is one of a header that the credentials set. -/
theorem sets_of_mem {name value : String}
    (h : (name, value) ∈ headers ++ cookieHeaders cookies r) :
    (Credential.mk (headers.map named) query cookies).Sets name := by
  rcases List.mem_append.mp h with hmem | hmem
  · exact .inl ⟨name, value, List.mem_map.mpr ⟨_, hmem, rfl⟩, sameHeader_refl name⟩
  · obtain ⟨hne, hname⟩ := eq_of_mem_cookieHeaders hmem
    exact .inr ⟨hne, sameHeader_iff.mpr (congrArg lowerText hname.symm)⟩

theorem Sets.congr {name other : String} (h : c.Sets name) (hsame : sameHeader name other = true) :
    c.Sets other := by
  rcases h with ⟨given, value, hmem, hgiven⟩ | ⟨hne, hcookie⟩
  · exact .inl ⟨given, value, hmem, by rw [← sameHeader_congr hsame, hgiven]⟩
  · exact .inr ⟨hne, by rw [← sameHeader_congr hsame, hcookie]⟩

/-- No setting has a name that the credentials do not set. -/
theorem sameHeader_of_not_sets {name : String}
    (h : ¬ (Credential.mk (headers.map named) query cookies).Sets name) :
    ∀ e ∈ headers ++ cookieHeaders cookies r, sameHeader e.1 name = false := by
  rintro ⟨other, value⟩ he
  rw [Bool.eq_false_iff]
  intro hsame
  exact h ((sets_of_mem he).congr hsame)

theorem header?_cookieHeaders (hne : cookies ≠ []) :
    (r.withHeaders (cookieHeaders cookies r)).header? "Cookie" =
      some (cookieValue (r.header? "Cookie") cookies) := by
  rw [← stampCookies_eq_withHeaders]
  exact header?_stampCookies hne (sameHeader_refl _)

/-- Without a header for cookies of their own the credentials put their cookies behind the old
ones. -/
theorem header?_cookie_of_settings (hne : cookies ≠ [])
    (h : ¬ (Credential.mk (headers.map named) [] []).Sets "Cookie") :
    (r.withHeaders (headers ++ cookieHeaders cookies (r.withHeaders headers))).header? "Cookie" =
      some (cookieValue (r.header? "Cookie") cookies) := by
  have hunnamed : ∀ e ∈ headers, sameHeader e.1 "Cookie" = false := by
    intro e he
    exact sameHeader_of_not_sets (r := r) h e (List.mem_append_left _ he)
  rw [Request.withHeaders_append, header?_cookieHeaders hne,
    Request.header?_withHeaders_of_unnamed hunnamed]

/-- **Stamping touches only what it must.** -/
theorem framed_of_stamp (h : c.stamp r = (.ok (), r')) : c.Framed r r' := by
  obtain ⟨headers, url, hnamed, rfl, hurl⟩ := exists_settings h
  obtain ⟨_, query, cookies⟩ := c
  cases hnamed
  constructor
  case url => exact hurl
  case method => exact Request.method_withHeaders
  case hooks => exact Request.hooks_withHeaders
  case places => exact Request.keepsPlaces_withHeaders _ r
  case distinct => exact Request.hasDistinctNames_withHeaders
  case kept =>
    intro i name value hi hunset
    exact Request.getElem?_withHeaders_of_unnamed hi (sameHeader_of_not_sets hunset)
  case added =>
    intro name value hmem
    rcases Request.mem_withHeaders hmem with hset | hold
    · exact .inr (sets_of_mem hset)
    · exact .inl hold
  case set =>
    intro front name value back hheaders hlast
    obtain ⟨front, rest, rfl, rfl, hrest⟩ := List.map_eq_append_iff.mp hheaders
    obtain ⟨e, back, rfl, he, rfl⟩ := List.map_eq_cons_iff.mp hrest
    obtain ⟨⟨⟩, rfl⟩ := Prod.mk.inj he
    rw [List.append_assoc, List.cons_append]
    exact Request.getElem?_withHeaders_of_last (sameHeader_of_not_sets hlast)
  case appended =>
    intro hne hunset old hold hfilled
    have hvalue := header?_cookie_of_settings (r := r) hne hunset
    rwa [hold, cookieValue_of_filled hfilled] at hvalue
  case begun =>
    intro hne hunset hempty
    have hvalue := header?_cookie_of_settings (r := r) hne hunset
    rwa [cookieValue_of_empty hempty] at hvalue

end Credential

/-! ### Decorating -/

namespace Authenticator

variable {τ : Type} {a : Authenticator} {bearer : Bearer τ} {request : Request}
  {path method : Option String} {t : τ} {c : Credential} {notices : List Notice}

/-- The credentials that are applied to a request: those that are chosen, or none. -/
def Applies (a : Authenticator) (bearer : Bearer τ) (request : Request)
    (path method : Option String) (t : τ) (c : Credential) : Prop :=
  let method := method.filter (!·.isEmpty) <|> request.method
  ∃ alternatives found notices u, a.security.table.resolve path method = .ok alternatives ∧
    choose (a.keyring bearer) alternatives (method.getD "" ++ " " ++ path.getD "") t =
      (.ok (found, notices), u) ∧ c = found.getD .empty

theorem Applies.unique {d : Credential} (h : a.Applies bearer request path method t c)
    (h' : a.Applies bearer request path method t d) : d = c := by
  obtain ⟨alternatives, found, notices, u, hresolve, hchoose, rfl⟩ := h
  obtain ⟨alternatives', found', notices', u', hresolve', hchoose', rfl⟩ := h'
  cases hresolve.symm.trans hresolve'
  cases hchoose.symm.trans hchoose'
  rfl

theorem decorate_of_applies (h : a.Applies bearer request path method t c) :
    (a.decorate bearer request path method t).result.map (fun _ => ()) = (c.stamp request).1 ∧
      (a.decorate bearer request path method t).request = (c.stamp request).2 := by
  obtain ⟨alternatives, found, notices, u, hresolve, hchoose, rfl⟩ := h
  cases found with
  | none =>
    unfold decorate
    simp only [hresolve, hchoose]
    exact ⟨rfl, rfl⟩
  | some c => exact decorate_of_chooses ⟨alternatives, notices, u, hresolve, hchoose⟩

/-- A decoration without a fault stamps the credentials that are applied. -/
theorem stamp_of_decorate (h : (a.decorate bearer request path method t).result = .ok notices) :
    ∃ c, a.Applies bearer request path method t c ∧
      c.stamp request = (.ok (), (a.decorate bearer request path method t).request) := by
  cases hresolve : a.security.table.resolve path
      (method.filter (!·.isEmpty) <|> request.method) with
  | error fault =>
    unfold decorate at h
    simp only [hresolve] at h
    cases h
  | ok alternatives =>
    rcases hchoose : choose (a.keyring bearer) alternatives
        ((method.filter (!·.isEmpty) <|> request.method).getD "" ++ " " ++ path.getD "") t with
      ⟨fault | ⟨found, notices'⟩, u⟩
    · unfold decorate at h
      simp only [hresolve, hchoose] at h
      cases h
    · have happlies : a.Applies bearer request path method t (found.getD .empty) :=
        ⟨alternatives, found, notices', u, hresolve, hchoose, rfl⟩
      obtain ⟨hresult, hrequest⟩ := decorate_of_applies happlies
      rw [h] at hresult
      exact ⟨_, happlies, Prod.ext hresult.symm hrequest.symm⟩

/-- A request that passes through is decorated for its operation, and gets a hook. -/
theorem decorate_of_authenticate (h : (a.authenticate bearer request t).result = .ok notices) :
    ∃ p, a.operationPath request = .ok p ∧
      (a.decorate bearer request (some p) none t).result = .ok notices ∧
      (a.authenticate bearer request t).request =
        (a.decorate bearer request (some p) none t).request.withHook := by
  unfold authenticate at h ⊢
  cases hp : a.operationPath request with
  | error fault =>
    rw [hp] at h
    cases h
  | ok p =>
    rw [hp] at h
    refine ⟨p, rfl, ?_⟩
    cases hd : (a.decorate bearer request (some p) none t).result with
    | error fault =>
      simp only [hd] at h
      cases h
    | ok notices' =>
      simp only [hd] at h
      simp only [hd, and_true]
      exact h

/-- **A decoration touches only what it must**, and so does passing a request through, which adds
one hook more. -/
theorem decoration_is_framed (a : Authenticator) (bearer : Bearer τ) (request : Request) (t : τ) :
    (∀ path method notices,
      (a.decorate bearer request path method t).result = .ok notices →
        ∃ c, a.Applies bearer request path method t c ∧
          c.Framed request (a.decorate bearer request path method t).request) ∧
    ∀ notices, (a.authenticate bearer request t).result = .ok notices →
      ∃ p c after, a.operationPath request = .ok p ∧
        a.Applies bearer request (some p) none t c ∧ c.Framed request after ∧
          (a.authenticate bearer request t).request = after.withHook := by
  constructor
  · intro path method notices h
    obtain ⟨c, hc, hstamp⟩ := stamp_of_decorate h
    exact ⟨c, hc, Credential.framed_of_stamp hstamp⟩
  · intro notices h
    obtain ⟨p, hp, hresult, hrequest⟩ := decorate_of_authenticate h
    obtain ⟨c, hc, hstamp⟩ := stamp_of_decorate hresult
    exact ⟨p, c, _, hp, hc, Credential.framed_of_stamp hstamp, hrequest⟩

/-! ### Headers that are there already -/

/-- A request with a cookie, a key and another header. -/
def filledRequest : Request where
  url := "http://h/pets"
  method := some "GET"
  headers := [("cookie", "a=1"), ("Accept", "*/*"), ("x-key", "old")]
  hooks := 0

/-- The credentials of a key in a header and in a cookie. -/
def keyAndCookie : Credential := ⟨[(.text "X-Key", "K")], [], [Form.pair "c" "K"]⟩

theorem applies_keyAndCookie : (requiring ["header", "cookie"]).Applies countedBearer filledRequest
    (some "/pets") none 0 keyAndCookie := by
  obtain ⟨names, hsorted⟩ := (isNamed_required ["header", "cookie"]).sorted
  have htry : ((requiring ["header", "cookie"]).keyring countedBearer).tryRequirement
      (required ["header", "cookie"]) 0 = (.ok (.satisfied keyAndCookie), 0) := rfl
  refine ⟨[required ["header", "cookie"]], some keyAndCookie, [], 0, rfl, ?_, rfl⟩
  rw [choose, firstSatisfiable, htry]
  simp only [hsorted]

/-- The key takes the place of the old one, the cookie stands behind the old one, and the other
header is not touched. -/
theorem key_and_cookie_in_old_places :
    let d := (requiring ["header", "cookie"]).decorate countedBearer filledRequest (some "/pets")
      none 0
    (∃ notices, d.result = .ok notices) ∧ d.request.headers[1]? = some ("Accept", "*/*") ∧
      d.request.headers[2]? = some ("X-Key", "K") ∧
        d.request.header? "Cookie" = some ("a=1" ++ "; " ++ Form.pair "c" "K") := by
  intro d
  obtain ⟨notices, hresult⟩ : ∃ notices, d.result = .ok notices := by
    have hstamped : d.result.map (fun _ => ()) = .ok () :=
      (decorate_of_applies applies_keyAndCookie).1
    cases hd : d.result with
    | ok notices => exact ⟨notices, rfl⟩
    | error fault =>
      rw [hd] at hstamped
      cases hstamped
  obtain ⟨c, hc, hframed⟩ := (decoration_is_framed (requiring ["header", "cookie"]) countedBearer
    filledRequest 0).1 (some "/pets") none notices hresult
  obtain rfl := applies_keyAndCookie.unique hc
  have hnamed {other : String} {value : String}
      (h : (Value.text other, value) ∈ keyAndCookie.headers) : other = "X-Key" := by
    cases List.mem_singleton.mp h
    rfl
  refine ⟨⟨notices, hresult⟩, ?_, ?_, ?_⟩
  · refine hframed.kept 1 "Accept" "*/*" rfl ?_
    rintro (⟨other, value, hmem, hsame⟩ | ⟨-, hsame⟩)
    · rw [hnamed hmem] at hsame
      exact absurd hsame (by decide)
    · exact absurd hsame (by decide)
  · have hlast : ¬ (Credential.mk [] [] keyAndCookie.cookies).Sets "X-Key" := by
      rintro (⟨other, value, hmem, -⟩ | ⟨-, hsame⟩)
      · cases hmem
      · exact absurd hsame (by decide)
    obtain ⟨hset, hplace⟩ := hframed.set [] "X-Key" "K" [] rfl hlast
    rwa [hplace (by decide)] at hset
  · refine hframed.appended (by simp [keyAndCookie]) ?_ "a=1" rfl (by decide)
    rintro (⟨other, value, hmem, hsame⟩ | ⟨hne, -⟩)
    · rw [hnamed hmem] at hsame
      exact absurd hsame (by decide)
    · exact hne rfl

end Authenticator

end RequestAuth
