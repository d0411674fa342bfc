import RequestAuth.Proofs.Ahead
import RequestAuth.Proofs.Answer
import RequestAuth.Proofs.Origin

/-!
# What an alternative may lack

Some schemes cannot be satisfied whatever a token endpoint does: the scheme is not declared or not
supported, or a value it needs is not configured (`Lacks`). Building such a scheme ends in a fault
that says so, and asks the endpoint for nothing. A token that comes from a cache is given once more
as long as it has not expired.
-/

namespace RequestAuth

/-! ### What is missing -/

/-- A value can be looked up in a table, and shown. -/
def Value.IsShowable (v : Value) : Prop := v.isKey = true ∧ ∃ shown, v.written = .ok shown

theorem Value.isShowable_text (s : String) : (text s).IsShowable := ⟨rfl, s, rfl⟩

/-- An API key cannot be sent. -/
inductive Config.LacksKey (config : Config) (location parameterName : Value) : Prop where
  /-- Neither the scheme nor the configuration has a name for it. -/
  | unnamed : parameterName.isTrue = false → config.apiKeyName = none →
    LacksKey config location parameterName
  /-- No key is configured. -/
  | keyless : config.apiKeys = [] → config.apiKeyValue = none →
    LacksKey config location parameterName
  /-- The key table has no entry for its name. -/
  | unlisted {name : Value} : config.apiKeyNameFor parameterName = .ok name →
    config.apiKeys ≠ [] → name.IsShowable →
    (∀ s, name = .text s → config.apiKeys.lookup s = none) →
    LacksKey config location parameterName
  /-- Keys are not sent in such a place. Its name can be looked up, if there is a key table. -/
  | misplaced {place : String} : location = .text place →
    lowerText place ∉ ["header", "cookie", "query"] →
    (config.apiKeys ≠ [] → parameterName.isTrue = true → parameterName.IsShowable) →
    LacksKey config location parameterName

/-- HTTP authentication lacks a value. -/
inductive Config.LacksHttp (config : Config) (subscheme : Value) : Prop where
  /-- Neither the scheme nor the configuration has a sub-scheme. -/
  | unnamed : subscheme.isTrue = false → isFilled config.authenticationScheme = false →
    LacksHttp config subscheme
  /-- There is no token to bear. -/
  | tokenless {name : String} :
    subscheme.orElse (Value.ofText? config.authenticationScheme) = .text name →
    upperText name = "BEARER" → config.bearerToken = none → LacksHttp config subscheme
  /-- There is no user or no password for another sub-scheme. -/
  | userless {name : String} :
    subscheme.orElse (Value.ofText? config.authenticationScheme) = .text name →
    upperText name ≠ "BEARER" → config.username = none ∨ config.password = none →
    LacksHttp config subscheme
  /-- There is no user or no password for a sub-scheme that is named by bytes. -/
  | userlessBytes {name : List UInt8} :
    subscheme.orElse (Value.ofText? config.authenticationScheme) = .bytes name →
    config.username = none ∨ config.password = none → LacksHttp config subscheme

/-- A client cannot ask for tokens. -/
inductive Client.Lacks (client : Client) : Prop where
  /-- It has no grant type. -/
  | ungranted : isFilled client.grantType = false → Lacks client
  /-- It has no name. -/
  | nameless : client.clientId = none → Lacks client
  /-- It has no endpoint. -/
  | unaddressed : isFilled client.tokenEndpoint = false → Lacks client
  /-- Its endpoint is a path without a base. -/
  | baseless {endpoint : String} {u : Url} : client.tokenEndpoint = some endpoint →
    Url.split endpoint.toList = .ok u → (u.scheme = [] ∨ u.authority = []) →
    isFilled client.baseUri = false → Lacks client

/-- The scheme of a name cannot be satisfied by what is declared and configured. -/
inductive Lacks (config : Config) (schemes : Registry) (name : Value) : Prop where
  /-- There is no such scheme. -/
  | undeclared {shown : String} : schemes.lookup name = .error (.schemeUnknown shown) →
    Lacks config schemes name
  /-- OpenID Connect is not supported. -/
  | openIdConnect {scheme : Scheme} {url : Value} : schemes.lookup name = .ok scheme →
    scheme.kind = .openIdConnect url → Lacks config schemes name
  /-- The API key cannot be sent. -/
  | apiKey {scheme : Scheme} {location parameterName : Value} : schemes.lookup name = .ok scheme →
    scheme.kind = .apiKey location parameterName → config.LacksKey location parameterName →
    Lacks config schemes name
  /-- HTTP authentication lacks a value. -/
  | http {scheme : Scheme} {subscheme bearerFormat : Value} : schemes.lookup name = .ok scheme →
    scheme.kind = .http subscheme bearerFormat → config.LacksHttp subscheme →
    Lacks config schemes name
  /-- The client cannot ask for tokens. -/
  | oauth2 {scheme : Scheme} {flows : List (Value × Flow)} : schemes.lookup name = .ok scheme →
    scheme.kind = .oauth2 flows → config.client.Lacks → Lacks config schemes name

theorem isEmpty_of_not_isFilled {s : Option String} (h : isFilled s = false) :
    (s.getD "").isEmpty = true := by
  cases s with
  | none => rfl
  | some s => simpa [isFilled] using h

/-- A fault says that something is not configured. -/
def Fault.IsMissing (fault : Fault) : Prop :=
  fault.kind = .configurationMissing ∨ fault.kind = .keyMissing

theorem Fault.IsMissing.isUnsatisfiable {fault : Fault} (h : fault.IsMissing) :
    fault.isUnsatisfiable = true := by
  unfold Fault.isUnsatisfiable
  rcases h with h | h
  · rw [h]
  · rw [h]

theorem basicHeader_of_userless {username password : Option String}
    (h : username = none ∨ password = none) (name word : String) :
    ∃ setting, basicHeader name word username password =
      .error (.settingMissing (name ++ " authentication") setting) := by
  unfold basicHeader
  cases username with
  | none => exact ⟨_, rfl⟩
  | some user =>
    obtain rfl : password = none := by simpa using h
    exact ⟨_, rfl⟩

/-- A sub-scheme can be named: by a text or by bytes, or not at all. -/
def Value.IsSubscheme (v : Value) : Prop :=
  v = .null ∨ (∃ s, v = .text s) ∨ ∃ content, v = .bytes content

namespace Config

variable {config : Config} {location parameterName subscheme : Value}

/-- A key table without an entry for a name is missing its key, if the name can be shown. -/
theorem apiKey_of_unlisted {name : Value} (htable : config.apiKeys ≠ [])
    (h : ∀ s, name = .text s → config.apiKeys.lookup s = none) :
    ∃ cause, config.apiKey name = .error cause ∧
      (name.IsShowable → ∃ shown, cause = .keyMissing shown) := by
  have hlookup : name.text?.bind (fun s => config.apiKeys.lookup s) = none := by
    cases name with
    | text s => exact h s rfl
    | _ => rfl
  rw [apiKey, if_neg (by simpa using htable)]
  by_cases hkey : name.isKey = true
  · rw [if_neg (by simp [hkey]), hlookup]
    cases hwritten : name.written with
    | error fault =>
      refine ⟨fault, rfl, ?_⟩
      rintro ⟨-, shown, hshown⟩
      cases hwritten.symm.trans hshown
    | ok shown => exact ⟨.keyMissing shown, rfl, fun _ => ⟨shown, rfl⟩⟩
  · rw [if_pos (by simpa using hkey)]
    exact ⟨.typeMismatch, rfl, fun hshowable => absurd hshowable.1 hkey⟩

/-- The key of a name that can be looked up is there, or it is missing. -/
theorem apiKey_cases {name : Value} (h : config.apiKeys ≠ [] → name.IsShowable) :
    (∃ key, config.apiKey name = .ok key) ∨
      ∃ cause, config.apiKey name = .error cause ∧ cause.isUnsatisfiable = true := by
  by_cases htable : config.apiKeys = []
  · rw [apiKey, if_pos (by simp [htable])]
    cases config.apiKeyValue with
    | some key => exact .inl ⟨key, rfl⟩
    | none => exact .inr ⟨_, rfl, rfl⟩
  · cases hlookup : name.text?.bind fun n => config.apiKeys.lookup n with
    | some key =>
      rw [apiKey, if_neg (by simpa using htable), if_neg (by simp [(h htable).1]), hlookup]
      exact .inl ⟨key, rfl⟩
    | none =>
      have hentry : ∀ s, name = .text s → config.apiKeys.lookup s = none := by
        rintro s rfl
        exact hlookup
      obtain ⟨cause, hmissing, hshown⟩ := apiKey_of_unlisted htable hentry
      obtain ⟨shown, rfl⟩ := hshown (h htable)
      exact .inr ⟨_, hmissing, rfl⟩

theorem keyAt_of_misplaced {place : String} (h : lowerText place ∉ ["header", "cookie", "query"])
    (name : Value) (key : String) :
    keyAt (.text place) name key = .error (.locationUnsupported place) := by
  simp only [List.mem_cons, List.not_mem_nil, or_false, not_or] at h
  obtain ⟨hheader, hcookie, hquery⟩ := h
  simp only [keyAt, Value.text_orElse_empty, hheader, hcookie, hquery, Value.written_text,
    beq_eq_false_iff_ne.mpr, ne_eq, not_false_eq_true, Bool.false_eq_true, if_false]
  rfl

theorem apiKeyCredential_of_lacksKey (h : config.LacksKey location parameterName) :
    ∃ cause, config.apiKeyCredential location parameterName = .error cause ∧
      cause.isUnsatisfiable = true := by
  cases hname : config.apiKeyNameFor parameterName with
  | error cause =>
    refine ⟨cause, apiKeyCredential_of_no_name hname, ?_⟩
    rw [apiKeyNameFor_eq_error hname]
    rfl
  | ok name =>
    rw [apiKeyCredential_of_name hname]
    cases h with
    | unnamed hdeclared hconfigured =>
      rw [apiKeyNameFor, if_neg (by simp [hdeclared]), hconfigured] at hname
      cases hname
    | keyless htable hkey =>
      rw [apiKey, if_pos (by simp [htable]), hkey]
      exact ⟨_, rfl, rfl⟩
    | @unlisted given hgiven htable hshowable hkey =>
      obtain rfl : given = name := Except.ok.inj (hgiven.symm.trans hname)
      obtain ⟨cause, hmissing, hshown⟩ := apiKey_of_unlisted htable hkey
      obtain ⟨shown, rfl⟩ := hshown hshowable
      rw [hmissing]
      exact ⟨_, rfl, rfl⟩
    | @misplaced place hlocation hplace hshowable =>
      have hshown (htable : config.apiKeys ≠ []) : name.IsShowable := by
        rcases apiKeyNameFor_cases hname with ⟨htrue, rfl⟩ | ⟨s, rfl⟩
        · exact hshowable htable htrue
        · exact Value.isShowable_text s
      rcases apiKey_cases hshown with ⟨key, hkey⟩ | ⟨cause, hkey, hcause⟩
      · rw [hkey, hlocation]
        exact ⟨_, keyAt_of_misplaced hplace _ _, rfl⟩
      · rw [hkey]
        exact ⟨cause, rfl, hcause⟩

theorem httpCredential_of_tokenless {name : String}
    (hname : subscheme.orElse (Value.ofText? config.authenticationScheme) = .text name)
    (hbearer : upperText name = "BEARER") (htoken : config.bearerToken = none) :
    ∃ cause, config.httpCredential subscheme = .error cause ∧ cause.IsMissing := by
  unfold httpCredential
  simp only [hname, hbearer, htoken, beq_self_eq_true, if_true]
  split
  · exact ⟨_, rfl, .inl rfl⟩
  · exact ⟨_, rfl, .inl rfl⟩

/-- Without a user or a password there is no credential for a sub-scheme other than that of
bearers. -/
theorem httpCredential_of_userless
    (hother : ∀ name, subscheme.orElse (Value.ofText? config.authenticationScheme) = .text name →
      upperText name ≠ "BEARER")
    (huser : config.username = none ∨ config.password = none) :
    ∃ cause, config.httpCredential subscheme = .error cause ∧
      ((subscheme.orElse (Value.ofText? config.authenticationScheme)).IsSubscheme →
        cause.IsMissing) := by
  unfold httpCredential
  generalize subscheme.orElse (Value.ofText? config.authenticationScheme) = effective at hother ⊢
  split
  · rename_i name
    obtain ⟨setting, hheader⟩ := basicHeader_of_userless huser name (capitalizeText name)
    split
    · exact ⟨_, rfl, fun _ => .inl rfl⟩
    · rw [if_neg (by simpa using hother name rfl), httpHeader, hheader]
      exact ⟨_, rfl, fun _ => .inl rfl⟩
  · exact ⟨_, rfl, fun _ => .inl rfl⟩
  · rename_i name
    obtain ⟨setting, hheader⟩ := basicHeader_of_userless huser (Value.bytes name).shown
      (Value.bytes (Text.capitalizeBytes name)).shown
    rw [bytesHeader, hheader]
    exact ⟨_, rfl, fun _ => .inl rfl⟩
  · rename_i htext hnull hbytes
    refine ⟨_, rfl, ?_⟩
    rintro (rfl | ⟨s, rfl⟩ | ⟨content, rfl⟩)
    · exact absurd rfl hnull
    · exact absurd rfl (htext s)
    · exact absurd rfl (hbytes content)

theorem httpCredential_of_lacksHttp (h : config.LacksHttp subscheme) :
    ∃ cause, config.httpCredential subscheme = .error cause ∧ cause.isUnsatisfiable = true := by
  cases h with
  | unnamed hdeclared hconfigured =>
    unfold httpCredential
    rw [Value.orElse_of_not_isTrue hdeclared]
    cases hscheme : config.authenticationScheme with
    | none => exact ⟨_, rfl, rfl⟩
    | some name =>
      have hempty : name.isEmpty = true := by
        simpa [hscheme] using isEmpty_of_not_isFilled hconfigured
      simp only [Value.ofText?, hempty, if_true]
      exact ⟨_, rfl, rfl⟩
  | tokenless hname hbearer htoken =>
    obtain ⟨cause, hc, hcause⟩ := httpCredential_of_tokenless hname hbearer htoken
    exact ⟨cause, hc, hcause.isUnsatisfiable⟩
  | @userless name hname hother huser =>
    have hbearer : ∀ word,
        subscheme.orElse (Value.ofText? config.authenticationScheme) = .text word →
          upperText word ≠ "BEARER" := by
      intro word hword
      cases hname.symm.trans hword
      exact hother
    obtain ⟨cause, hc, hcause⟩ := httpCredential_of_userless hbearer huser
    exact ⟨cause, hc, (hcause (.inr (.inl ⟨name, hname⟩))).isUnsatisfiable⟩
  | @userlessBytes name hname huser =>
    have hbearer : ∀ word,
        subscheme.orElse (Value.ofText? config.authenticationScheme) = .text word →
          upperText word ≠ "BEARER" := by
      intro word hword
      cases hname.symm.trans hword
    obtain ⟨cause, hc, hcause⟩ := httpCredential_of_userless hbearer huser
    exact ⟨cause, hc, (hcause (.inr (.inr ⟨name, hname⟩))).isUnsatisfiable⟩

end Config

namespace Client

variable {client : Client}

theorem url_of_unaddressed (h : isFilled client.tokenEndpoint = false) :
    client.url = .error (.settingMissing "OAuth2 authentication" "token_endpoint") := by
  unfold url tokenUrl
  simp only [isEmpty_of_not_isFilled h, if_true]
  rfl

theorem url_of_baseless {endpoint : String} {u : Url}
    (hendpoint : client.tokenEndpoint = some endpoint) (hu : Url.split endpoint.toList = .ok u)
    (hpath : u.scheme = [] ∨ u.authority = []) (hbase : isFilled client.baseUri = false) :
    ∃ cause, client.url = .error cause ∧ cause.kind = .configurationMissing := by
  by_cases hempty : endpoint = ""
  · have hunfilled : isFilled client.tokenEndpoint = false := by simp [hendpoint, hempty, isFilled]
    exact ⟨_, url_of_unaddressed hunfilled, rfl⟩
  · have hrelative : ¬ u.IsAbsolute := fun h => hpath.elim h.1 h.2
    refine ⟨.baseMissing endpoint, ?_, rfl⟩
    rw [url, hendpoint, tokenUrl_of_split hempty hu, if_neg hrelative,
      if_pos (isEmpty_of_not_isFilled hbase)]

/-- A client that lacks something has no request to make. -/
theorem request_of_lacks (h : client.Lacks) :
    ∃ cause, client.request = .error cause ∧ cause.kind = .configurationMissing := by
  unfold request
  cases hform : tokenForm client.grantType client.username client.password with
  | error fault => exact ⟨_, rfl, rfl⟩
  | ok body =>
    cases hid : client.clientId with
    | none => exact ⟨_, rfl, rfl⟩
    | some id =>
      obtain ⟨cause, hurl, hcause⟩ :
          ∃ cause, client.url = .error cause ∧ cause.kind = .configurationMissing := by
        cases h with
        | ungranted hgrant =>
          have hnone : client.grantType.filter (!·.isEmpty) = none := by
            cases hg : client.grantType with
            | none => rfl
            | some grant => simpa [Option.filter, hg] using isEmpty_of_not_isFilled hgrant
          rw [tokenForm, hnone] at hform
          cases hform
        | nameless hnone =>
          rw [hnone] at hid
          cases hid
        | unaddressed hendpoint => exact ⟨_, url_of_unaddressed hendpoint, rfl⟩
        | baseless hendpoint hu hpath hbase => exact url_of_baseless hendpoint hu hpath hbase
      simp only [hurl]
      exact ⟨cause, rfl, hcause⟩

/-- Without a request the endpoint is left alone. -/
theorem authenticate_of_error {cause : Fault} (h : client.request = .error cause) {σ : Type}
    (endpoint : Endpoint σ) (s : σ) : client.authenticate endpoint s = (.error cause, s) := by
  rw [authenticate, h]

end Client

/-! ### Building what lacks something -/

namespace Keyring

variable {τ : Type} {bearer : Bearer τ} {k : Keyring τ} {name : Value} {names rest : List Value}
  {c : Credential} {s t u : τ}

/-- A token is built from what the source gives. -/
theorem token_of_bearer (hk : k.bearer = some bearer) {cause : Fault}
    (h : bearer t = (.error cause, u)) : k.token t = (.error cause, u) := by
  simp only [token, hk, h]

/-- What lacks something cannot be built, and no token is asked for. -/
theorem buildNamed_of_lacks (hk : k.bearer = some bearer) (h : Lacks k.config k.schemes name)
    (hclient : k.config.client.Lacks →
      ∃ cause, bearer t = (.error cause, t) ∧ cause.isUnsatisfiable = true) :
    ∃ cause, k.buildNamed name t = (.error cause, t) ∧ cause.isUnsatisfiable = true := by
  cases h with
  | undeclared hlookup => exact ⟨_, by rw [buildNamed, hlookup], rfl⟩
  | openIdConnect hlookup hkind =>
    exact ⟨_, by rw [buildNamed_of_lookup hlookup, build, hkind], rfl⟩
  | apiKey hlookup hkind hlacks =>
    obtain ⟨cause, hc, hcause⟩ := Config.apiKeyCredential_of_lacksKey hlacks
    exact ⟨cause, by rw [buildNamed_of_lookup hlookup, build, hkind]; simp only [hc], hcause⟩
  | http hlookup hkind hlacks =>
    obtain ⟨cause, hc, hcause⟩ := Config.httpCredential_of_lacksHttp hlacks
    exact ⟨cause, by rw [buildNamed_of_lookup hlookup, build, hkind]; simp only [hc], hcause⟩
  | oauth2 hlookup hkind hlacks =>
    obtain ⟨cause, hc, hcause⟩ := hclient hlacks
    refine ⟨cause, ?_, hcause⟩
    rw [buildNamed_of_lookup hlookup, build, hkind]
    exact token_of_bearer hk hc

end Keyring

/-! ### Tokens from a cache -/

theorem Fault.not_isUnsatisfiable_of_range {fault : Fault} (h : fault.kind = .range) :
    fault.isUnsatisfiable = false := by
  unfold isUnsatisfiable
  rw [h]

theorem Fault.not_isUnsatisfiable_of_isTokenFault {fault : Fault} (h : fault.isTokenFault = true) :
    fault.isUnsatisfiable = false := by
  unfold isTokenFault at h
  unfold isUnsatisfiable
  generalize fault.kind = kind at h
  cases kind with
  | tokenFetch | refused => rfl
  | _ => cases h

/-- What an endpoint brings is a token, or a fault that ends everything. -/
theorem not_isUnsatisfiable_of_receive {fault : Fault} {f : Fetch} {url : String} {reply : Reply}
    (h : concludeReply url reply >>= f.receive = .error fault) : fault.isUnsatisfiable = false := by
  rcases bind_eq_error.mp h with h | ⟨token, -, h⟩
  · cases reply with
    | failure reason =>
      cases h
      rfl
    | answer status body =>
      rw [concludeReply] at h
      rcases readAnswer_cases status body with
        ⟨collection, -, ha⟩ | ⟨answer, ha⟩ | ⟨data, lifetime, access, type, -, -, ha⟩
      · rw [ha] at h
        cases h
        rfl
      · rw [ha] at h
        cases h
        rfl
      · rw [ha] at h
        cases hl : readLifetime lifetime with
        | ok n =>
          rw [hl] at h
          cases h
        | error fault' =>
          rw [hl] at h
          cases h
          rcases readLifetime_eq_error hl with htoken | ⟨x, -, -, hkind⟩
          · exact Fault.not_isUnsatisfiable_of_isTokenFault htoken
          · exact Fault.not_isUnsatisfiable_of_range hkind
  · obtain ⟨n, -, hexpiry⟩ := receive_eq_error.mp h
    exact Fault.not_isUnsatisfiable_of_range (kind_of_expiry hexpiry)

section Cached

variable {σ : Type} {client : Client} {endpoint : Endpoint σ} {now : Instant} {c : Cache} {s : σ}
  {u v : Cache × σ}

theorem cachedBearer_of_obtain_ok {t : CachedToken}
    (h : u.1.obtain (client.authenticate endpoint) false now u.2 = (.ok t, v)) :
    cachedBearer client endpoint now u = (.ok t.access, v) := by
  simp only [cachedBearer, h]

theorem cachedBearer_of_obtain_error {fault : Fault}
    (h : u.1.obtain (client.authenticate endpoint) false now u.2 = (.error fault, v)) :
    cachedBearer client endpoint now u = (.error fault, v) := by
  simp only [cachedBearer, h]

/-- A client that lacks something gets no token from a cache without one. -/
theorem cachedBearer_of_lacks (h : client.Lacks) (hc : c.token = none) :
    ∃ cause, cachedBearer client endpoint now (c, s) = (.error cause, (c, s)) ∧
      cause.isUnsatisfiable = true := by
  obtain ⟨cause, hrequest, hcause⟩ := Client.request_of_lacks h
  have hunusable : c.snapshot.usable? now = none := by
    simp [Cache.snapshot, Snapshot.usable?, hc]
  have hask := Client.authenticate_of_error hrequest endpoint s
  exact ⟨cause, cachedBearer_of_obtain_error (Cache.obtain_of_fault hunusable hask rfl),
    Fault.IsMissing.isUnsatisfiable (.inl hcause)⟩

/-- When no token can be had for lack of something, nothing happens. -/
theorem eq_of_cachedBearer_eq_error {fault : Fault}
    (h : cachedBearer client endpoint now u = (.error fault, v))
    (hfault : fault.isUnsatisfiable = true) : v = u := by
  obtain ⟨c, s⟩ := u
  cases husable : c.snapshot.usable? now with
  | some t =>
    rw [cachedBearer_of_obtain_ok (Cache.obtain_of_usable husable)] at h
    cases h
  | none =>
    cases hrequest : client.request with
    | error cause =>
      have hask := Client.authenticate_of_error hrequest endpoint s
      rw [cachedBearer_of_obtain_error (Cache.obtain_of_fault husable hask rfl)] at h
      cases h
      rfl
    | ok request =>
      have hask := Client.authenticate_eq hrequest endpoint s
      cases hreceive : concludeReply request.url (endpoint request s).1 >>=
          (Fetch.mk c.generation now).receive with
      | ok t =>
        rw [cachedBearer_of_obtain_ok (Cache.obtain_of_fetched husable hask hreceive)] at h
        cases h
      | error cause =>
        rw [cachedBearer_of_obtain_error (Cache.obtain_of_fault husable hask hreceive)] at h
        cases h
        rw [not_isUnsatisfiable_of_receive hreceive] at hfault
        cases hfault

/-- A token that has not expired is given once more. -/
theorem cachedBearer_twice {access : Value}
    (hfresh : ∀ t w, u.1.obtain (client.authenticate endpoint) false now u.2 = (.ok t, w) →
      t.isExpired now = false)
    (h : cachedBearer client endpoint now u = (.ok access, v)) :
    cachedBearer client endpoint now v = (.ok access, v) := by
  obtain ⟨c, s⟩ := u
  cases husable : c.snapshot.usable? now with
  | some t =>
    have hobtain : c.obtain (client.authenticate endpoint) false now s = (.ok t, c, s) :=
      Cache.obtain_of_usable husable
    rw [cachedBearer_of_obtain_ok hobtain] at h
    cases h
    exact cachedBearer_of_obtain_ok hobtain
  | none =>
    rcases hask : client.authenticate endpoint s with ⟨reply, w⟩
    cases hreceive : reply >>= (Fetch.mk c.generation now).receive with
    | error cause =>
      rw [cachedBearer_of_obtain_error (Cache.obtain_of_fault husable hask hreceive)] at h
      cases h
    | ok t =>
      have hobtain := Cache.obtain_of_fetched husable hask hreceive
      have hkept : ({ c with token := some t } : Cache).snapshot.usable? now = some t :=
        Snapshot.usable?_eq_some.mpr ⟨rfl, hfresh t _ hobtain⟩
      rw [cachedBearer_of_obtain_ok hobtain] at h
      cases h
      exact cachedBearer_of_obtain_ok (Cache.obtain_of_usable hkept)

end Cached

end RequestAuth
