import RequestAuth.Proofs.Lacking

/-!
# An alternative that cannot be satisfied

An alternative that names a scheme which lacks something can be put anywhere among the alternatives
of an operation: what comes of a request stays the same, as long as the schemes in front of that one
are quiet (`Quiet`). They are not when one of them ends in a fault of its own, such as one of the
token endpoint, or when they use up a token that has expired at once.

The clock stands still while a request is decorated: each token that is asked for on the way is
asked for at the same instant (`cachedBearer`). What is *not* formalized is a token that expires
between two schemes of one request.
-/

namespace RequestAuth

variable {σ : Type} {endpoint : Endpoint σ} {now : Instant}

/-- Building the schemes of some names leaves nothing to be seen, if nothing comes of it: there is
no fault that ends everything, and the token that is asked for has not expired at once. -/
structure Quiet (k : Keyring (Cache × σ)) (endpoint : Endpoint σ) (now : Instant)
    (names : List Value) (u : Cache × σ) : Prop where
  /-- A fault only means that the schemes cannot be satisfied. -/
  faults : ∀ fault v, k.gather names .empty u = (.error fault, v) → fault.isUnsatisfiable = true
  /-- A token that is asked for has not expired at once. -/
  fresh : (∃ name ∈ names, k.schemes.AsksToken name) → ∀ t v,
    u.1.obtain (k.config.client.authenticate endpoint) false now u.2 = (.ok t, v) →
      t.isExpired now = false

namespace Keyring

variable {k : Keyring (Cache × σ)} {r : Requirement} {front rest : List Value} {name : Value}
  {u v : Cache × σ}

/-- Quiet schemes ask for a token ahead of time at most. -/
theorem ahead_of_quiet (hk : k.bearer = some (cachedBearer k.config.client endpoint now))
    (hquiet : Quiet k endpoint now front u) {result : Except Fault Credential}
    (h : k.gather front .empty u = (result, v)) :
    Ahead (cachedBearer k.config.client endpoint now) u v := by
  refine ahead_of_gather hk h ?_ ?_ (fun fault w hw hfault => eq_of_cachedBearer_eq_error hw hfault)
    (.refl _ u)
  · rintro fault rfl
    exact hquiet.faults fault v h
  · intro hasks access w hw
    exact cachedBearer_twice (hquiet.fresh hasks) hw

/-- A client that lacks something asks for no token ahead of time. -/
theorem eq_of_ahead_of_lacks {client : Client} (h : Ahead (cachedBearer client endpoint now) u v)
    (hclient : client.Lacks) (hu : u.1.token = none) : v = u := by
  obtain ⟨c, s⟩ := u
  rcases h with rfl | ⟨access, hask, -⟩
  · rfl
  · obtain ⟨cause, hcause, -⟩ := cachedBearer_of_lacks hclient hu
    cases hask.symm.trans hcause

/-- An alternative with a scheme that lacks something is skipped behind quiet schemes. -/
theorem tryRequirement_of_lacks (hk : k.bearer = some (cachedBearer k.config.client endpoint now))
    (hnames : r.map Prod.fst = front ++ name :: rest) (hlacks : Lacks k.config k.schemes name)
    (hquiet : Quiet k endpoint now front u) (hu : k.config.client.Lacks → u.1.token = none) :
    ∃ cause v, k.tryRequirement r u = (.ok (.unsatisfiable cause), v) ∧
      Ahead (cachedBearer k.config.client endpoint now) u v := by
  rcases hfront : k.gather front .empty u with ⟨fault | c, v⟩
  · refine ⟨fault, v, ?_, ahead_of_quiet hk hquiet hfront⟩
    rw [tryRequirement, credential, hnames, gather_append, hfront]
    simp only [Outcome.ofResult, hquiet.faults fault v hfront, if_true]
  · have hahead := ahead_of_quiet hk hquiet hfront
    -- a client that lacks something has not even asked, so its cache is empty still
    have hclient (h : k.config.client.Lacks) : ∃ cause,
        cachedBearer k.config.client endpoint now v = (.error cause, v) ∧
          cause.isUnsatisfiable = true := by
      obtain rfl := eq_of_ahead_of_lacks hahead h (hu h)
      exact cachedBearer_of_lacks h (hu h)
    obtain ⟨cause, hbuild, hcause⟩ := buildNamed_of_lacks hk hlacks hclient
    refine ⟨cause, v, ?_, hahead⟩
    rw [tryRequirement, credential, hnames, gather_append, hfront]
    simp only [gather, hbuild, Outcome.ofResult, hcause, if_true]

/-- A fault in front of the scheme that lacks something ends everything. -/
theorem tryRequirement_of_fault (hnames : r.map Prod.fst = front ++ name :: rest) {fault : Fault}
    (h : k.gather front .empty u = (.error fault, v)) (hfault : fault.isUnsatisfiable = false) :
    k.tryRequirement r u = (.error fault, v) := by
  rw [tryRequirement, credential, hnames, gather_append, h]
  simp only [Outcome.ofResult, hfault]
  rfl

end Keyring

namespace Authenticator

variable {a b : Authenticator} {request : Request} {path method : Option String}
  {before after : List Requirement} {r : Requirement} {front rest names : List Value} {name : Value}
  {c : Cache} {s : σ}

/-- A client that lacks something never fills an empty cache. -/
theorem token_of_firstSatisfiable {k : Keyring (Cache × σ)}
    (hk : k.bearer = some (cachedBearer k.config.client endpoint now))
    (hclient : k.config.client.Lacks) (hc : c.token = none) (alternatives : List Requirement) :
    (firstSatisfiable k alternatives (c, s)).2.1.token = none := by
  have hkept (u : Cache × σ) (hu : u.1.token = none) :
      (cachedBearer k.config.client endpoint now u).2.1.token = none := by
    obtain ⟨d, w⟩ := u
    obtain ⟨cause, h, -⟩ := cachedBearer_of_lacks hclient hu
    rw [h]
    exact hu
  exact (agrees_firstSatisfiable hk (respects_of_kept hkept) ⟨rfl, hc⟩ alternatives).state.2

/-- The first alternative that can be satisfied stays the same when one that lacks something is put
in. -/
theorem agrees_insertion {k : Keyring (Cache × σ)}
    (hk : k.bearer = some (cachedBearer k.config.client endpoint now))
    (hsorted : Value.sorted (r.map Prod.fst) = .ok names)
    (hnames : r.map Prod.fst = front ++ name :: rest) (hlacks : Lacks k.config k.schemes name)
    (hcache : k.config.client.Lacks → c.token = none)
    (hquiet : ∀ u, firstSatisfiable k before (c, s) = (.ok none, u) →
      Quiet k endpoint now front u) :
    Agrees (Ahead (cachedBearer k.config.client endpoint now))
      (firstSatisfiable k (before ++ after) (c, s))
      (firstSatisfiable k (before ++ r :: after) (c, s)) := by
  refine agrees_of_skipped hk (respects_ahead _) (.refl _) hsorted fun u hreached => ?_
  refine Keyring.tryRequirement_of_lacks hk hnames hlacks (hquiet u hreached) fun hclient => ?_
  have htoken := token_of_firstSatisfiable hk hclient (hcache hclient) (s := s) before
  rwa [hreached] at htoken

/-- An alternative that ends in a fault when it is reached ends the choice. -/
theorem choose_of_fault {τ : Type} {k : Keyring τ} {t u v : τ} {fault : Fault}
    (hreached : firstSatisfiable k before t = (.ok none, u))
    (h : k.tryRequirement r u = (.error fault, v)) (described : String) :
    choose k (before ++ r :: after) described t = (.error fault, v) := by
  rw [choose, firstSatisfiable_append_eq, hreached]
  simp only [firstSatisfiable_of_error h]

/-- **An alternative that lacks something changes nothing, wherever it stands.** The schemes in
front of the one that lacks something have to be quiet, when the alternative is reached. In
particular an alternative behind it that can be satisfied is applied. When the schemes in front end
in a fault of their own, the decoration ends in that fault. The two decorations read the clock at the
same instant, and each of them once. -/
theorem insertion_of_lacking (hconfig : b.config = a.config)
    (hschemes : b.security.schemes = a.security.schemes)
    (hresolve : a.security.table.resolve path (method.filter (!·.isEmpty) <|> request.method) =
      .ok (before ++ after))
    (hinserted : b.security.table.resolve path (method.filter (!·.isEmpty) <|> request.method) =
      .ok (before ++ r :: after))
    (hsorted : Value.sorted (r.map Prod.fst) = .ok names)
    (hnames : r.map Prod.fst = front ++ name :: rest)
    (hlacks : Lacks a.config a.security.schemes name)
    (hcache : a.config.client.Lacks → c.token = none) :
    let bearer := cachedBearer a.config.client endpoint now
    let k := a.keyring bearer
    let decorated := (b.decorate bearer request path method (c, s)).visible
    ((∀ u, firstSatisfiable k before (c, s) = (.ok none, u) → Quiet k endpoint now front u) →
      decorated = (a.decorate bearer request path method (c, s)).visible ∧
        ∀ next later credential u, before = [] → after = next :: later → next.IsNamed →
          k.tryRequirement next (c, s) = (.ok (.satisfied credential), u) →
            decorated = credential.stamp request) ∧
    ∀ u v fault, firstSatisfiable k before (c, s) = (.ok none, u) →
      k.gather front .empty u = (.error fault, v) → fault.isUnsatisfiable = false →
        decorated = (.error fault, request) := by
  intro bearer k decorated
  -- the two decorations build from one key ring, over different lists of alternatives
  have hkeyring : b.keyring bearer = k := by
    simp only [k, keyring, hconfig, hschemes]
  have hdecorated : decorated = stampChosen request (chosen (choose k (before ++ r :: after)
      ((method.filter (!·.isEmpty) <|> request.method).getD "" ++ " " ++ path.getD "")
      (c, s))) := by
    rw [← hkeyring]
    exact visible_decorate hinserted (c, s)
  clear_value decorated
  refine ⟨fun hquiet => ?quiet, fun u v fault hreached hgather hfault => ?fault⟩
  case fault =>
    have htry : k.tryRequirement r u = (.error fault, v) :=
      Keyring.tryRequirement_of_fault hnames hgather hfault
    rw [hdecorated, choose_of_fault hreached htry]
    rfl
  case quiet =>
    have hagrees : Agrees (Ahead bearer) (firstSatisfiable k (before ++ after) (c, s))
        (firstSatisfiable k (before ++ r :: after) (c, s)) :=
      agrees_insertion (k := k) rfl hsorted hnames hlacks hcache hquiet
    have hsame : decorated = (a.decorate bearer request path method (c, s)).visible := by
      rw [hdecorated, visible_decorate hresolve,
        chosen_choose rfl (respects_ahead bearer) hagrees]
    refine ⟨hsame, ?_⟩
    rintro next later credential u rfl rfl hnamed htry
    obtain ⟨sorted, hnext⟩ := hnamed.sorted
    rw [hsame]
    exact visible_of_satisfied hresolve rfl hnext htry

/-! ### A token in front of an unknown scheme -/

/-- A configuration with an API key and a client. -/
def keyAndClient : Config :=
  ⟨none, .none, none, none, none, none, none, some "K", [], some "c", some "s",
    some "client_credentials", some "http://t/token", .int 30, .int 0⟩

/-- An operation with some alternatives, for which a token and a key are declared. -/
def offering (alternatives : List Requirement) : Authenticator where
  config := keyAndClient
  security := {
    schemes := tokenOrKey.security.schemes
    table := ⟨[(⟨"/pets", "GET"⟩, alternatives)], []⟩ }
  basePath := []

/-- The alternative of a token and an unknown scheme. -/
def tokenAndOther : Requirement := [(.text "token", []), (.text "other", [])]

/-- The alternative of a key. -/
def keyAlone : Requirement := [(.text "key", [])]

/-- The alternative of a token. -/
def tokenAlone : Requirement := [(.text "token", [])]

/-- An endpoint that answers with a body for each number of answers given before. -/
def answering (body : Nat → String) : Endpoint Nat := fun _ n => (.answer 200 (body n), n + 1)

/-- What a cache keeps of such a token at noon. -/
def keptAtNoon (access : String) (lifetime : Int) : CachedToken :=
  ⟨.text access, .text "Bearer", some (noonOf2024.plus lifetime), 0⟩

@[simp] theorem isExpired_keptAtNoon (access : String) (lifetime : Int) :
    (keptAtNoon access lifetime).isExpired noonOf2024 = decide (lifetime ≤ 0) := by
  have h : noonOf2024.seconds + lifetime ≤ noonOf2024.seconds ↔ lifetime ≤ 0 := by omega
  simp [keptAtNoon, CachedToken.isExpired, h]

/-- A cache whose first token has not been dropped yet. -/
def cacheOf (token : Option CachedToken) : Cache := { Cache.empty with token }

variable {body : Nat → String} {access : String} {lifetime : Int} {n : Nat}

theorem receive_tokenObject (hread : Json.read (body n) = .ok (tokenObject access lifetime))
    (haccess : access ≠ "") (hend : (noonOf2024.plus lifetime).isRepresentable = true) :
    readAnswer 200 (body n) >>= (Fetch.mk 0 noonOf2024).receive =
      .ok (keptAtNoon access lifetime) := by
  have ha : (tokenObject access lifetime).member "access_token" = .ok (.text access) := rfl
  have hl : (tokenObject access lifetime).member "expires_in" = .ok (.int lifetime) := rfl
  have ht : (tokenObject access lifetime).memberOr "token_type" (.text "Bearer") =
      .ok (.text "Bearer") := rfl
  have htrue : (Value.text access).isTrue = true := by simpa [Value.isTrue] using haccess
  have hstart : noonOf2024.isRepresentable = true := rfl
  have hanswer : readAnswer 200 (body n) =
      .ok ⟨.text access, .text "Bearer", some lifetime, tokenObject access lifetime⟩ := by
    rw [readAnswer_of_success hread rfl rfl, Token.read_eq ha hl ht, if_pos htrue]
    rfl
  have hreceive : (Fetch.mk 0 noonOf2024).receive
      ⟨.text access, .text "Bearer", some lifetime, tokenObject access lifetime⟩ =
        .ok (keptAtNoon access lifetime) := by
    rw [Fetch.receive]
    simp only [expiry_eq_ok hstart hend]
    rfl
  rw [hanswer]
  exact hreceive

/-- The client has a request to make. -/
theorem exists_authenticate {σ : Type} (endpoint : Endpoint σ) (s : σ) :
    ∃ request, keyAndClient.client.authenticate endpoint s =
      (concludeReply request.url (endpoint request s).1, (endpoint request s).2) := by
  have hid : keyAndClient.client.clientId = some "c" := rfl
  have hurl : keyAndClient.client.url = .ok "http://t/token" := rfl
  obtain ⟨request, hrequest, -⟩ := Client.exists_request rfl hid hurl
  exact ⟨request, Client.authenticate_eq hrequest endpoint s⟩

/-- A cache without a usable token keeps the one that is brought. -/
theorem obtain_answering (hread : Json.read (body n) = .ok (tokenObject access lifetime))
    (haccess : access ≠ "") (hend : (noonOf2024.plus lifetime).isRepresentable = true)
    {token : Option CachedToken} (hc : (cacheOf token).snapshot.usable? noonOf2024 = none) :
    (cacheOf token).obtain (keyAndClient.client.authenticate (answering body)) false noonOf2024 n =
      (.ok (keptAtNoon access lifetime), cacheOf (some (keptAtNoon access lifetime)), n + 1) := by
  obtain ⟨request, hask⟩ := exists_authenticate (answering body) n
  exact Cache.obtain_of_fetched hc hask (receive_tokenObject hread haccess hend)

/-- The body of a token with a lifetime. -/
def tokenBody (access lifetime : String) : String :=
  "\x7b\"access_token\":\"" ++ access ++ "\",\"expires_in\":" ++ lifetime ++ "\x7d"

/-- A token for a minute, however often it is asked for. -/
def aMinute (_ : Nat) : String := tokenBody "A" "60"

theorem read_aMinute (n : Nat) : Json.read (aMinute n) = .ok (tokenObject "A" 60) := by
  unfold aMinute
  exact eq_tokenObject (by decide +kernel)

/-- A token that expires at once, and then another one. -/
def anInstant (n : Nat) : String := tokenBody (if n = 0 then "A" else "B") "0"

theorem read_anInstant_zero : Json.read (anInstant 0) = .ok (tokenObject "A" 0) :=
  eq_tokenObject (by decide +kernel)

theorem read_anInstant_one : Json.read (anInstant 1) = .ok (tokenObject "B" 0) :=
  eq_tokenObject (by decide +kernel)

/-- Tokens from a cache at noon, behind an endpoint with some state. -/
def atNoon {σ : Type} (endpoint : Endpoint σ) : Bearer (Cache × σ) :=
  cachedBearer keyAndClient.client endpoint noonOf2024

/-- What can be seen of a request without a path of its own and a cache without a token. -/
def seen {σ : Type} (a : Authenticator) (endpoint : Endpoint σ) (s : σ) :
    Except Fault Unit × Request :=
  (a.decorate (atNoon endpoint) plainRequest (some "/pets") none (cacheOf none, s)).visible

/-- The plain request with a header. -/
def plainWith (name value : String) : Request := { plainRequest with headers := [(name, value)] }

theorem resolve_offering (alternatives : List Requirement) :
    (offering alternatives).security.table.resolve (some "/pets")
      ((none : Option String).filter (!·.isEmpty) <|> plainRequest.method) = .ok alternatives := rfl

theorem names_tokenAndOther :
    tokenAndOther.map Prod.fst = [.text "token"] ++ [.text "other"] := rfl

theorem lacks_other : Lacks keyAndClient tokenOrKey.security.schemes (.text "other") :=
  .undeclared rfl

/-- The key can always be sent. -/
theorem tryRequirement_keyAlone {σ : Type} (endpoint : Endpoint σ) (alternatives : List Requirement)
    (u : Cache × σ) :
    ((offering alternatives).keyring (atNoon endpoint)).tryRequirement keyAlone u =
      (.ok (.satisfied ⟨[(.text "X-Key", "K")], [], []⟩), u) := rfl

theorem isNamed_tokenAndOther : tokenAndOther.IsNamed := by
  simp [tokenAndOther, Requirement.IsNamed, or_imp, forall_and]

theorem isNamed_keyAlone : keyAlone.IsNamed := by
  simp [keyAlone, Requirement.IsNamed]

/-- The scheme of the token is built from what the cache gives. -/
theorem gather_token {σ : Type} {endpoint : Endpoint σ} {u v : Cache × σ}
    {result : Except Fault Value} (h : atNoon endpoint u = (result, v))
    (alternatives : List Requirement) :
    ((offering alternatives).keyring (atNoon endpoint)).gather [.text "token"] .empty u =
      (result.map fun access => authorization (bearerHeader access), v) := by
  have hscheme : (offering alternatives).security.schemes.lookup (.text "token") =
      .ok ⟨.text "token", .null, .oauth2 []⟩ := rfl
  rw [Keyring.gather, Keyring.buildNamed_of_lookup hscheme]
  simp only [Keyring.build, Keyring.token, keyring, h]
  cases result with
  | ok access => rfl
  | error fault => rfl

/-- The key is stamped although a token was asked for in front of it, which nobody can see. -/
theorem token_unseen_before_key :
    Lacks keyAndClient tokenOrKey.security.schemes (.text "other") ∧
      seen (offering [tokenAndOther, keyAlone]) (answering aMinute) 0 =
        (.ok (), plainWith "X-Key" "K") := by
  have hobtain : (cacheOf none).obtain (keyAndClient.client.authenticate (answering aMinute)) false
      noonOf2024 0 = (.ok (keptAtNoon "A" 60), cacheOf (some (keptAtNoon "A" 60)), 1) :=
    obtain_answering (read_aMinute 0) (by decide) rfl rfl
  have hask : atNoon (answering aMinute) (cacheOf none, 0) =
      (.ok (.text "A"), (cacheOf (some (keptAtNoon "A" 60)), 1)) :=
    cachedBearer_of_obtain_ok (u := (cacheOf none, 0)) hobtain
  have hquiet (u : Cache × Nat)
      (hu : firstSatisfiable ((offering [keyAlone]).keyring (atNoon (answering aMinute))) []
        (cacheOf none, 0) = (.ok none, u)) :
      Quiet ((offering [keyAlone]).keyring (atNoon (answering aMinute))) (answering aMinute)
        noonOf2024 [.text "token"] u := by
    obtain rfl : (cacheOf none, 0) = u := (Prod.mk.inj hu).2
    refine ⟨fun fault v h => ?_, fun _ t v h => ?_⟩
    · cases (Prod.mk.inj ((gather_token hask [keyAlone]).symm.trans h)).1
    · obtain rfl : keptAtNoon "A" 60 = t := Except.ok.inj (Prod.mk.inj (hobtain.symm.trans h)).1
      simp
  have hstamp : Credential.stamp ⟨[(.text "X-Key", "K")], [], []⟩ plainRequest =
      (.ok (), plainWith "X-Key" "K") := rfl
  have hcache : keyAndClient.client.Lacks → (cacheOf none).token = none := fun _ => rfl
  obtain ⟨names, hsorted⟩ := isNamed_tokenAndOther.sorted
  have h := (@insertion_of_lacking Nat (answering aMinute) noonOf2024 (offering [keyAlone])
    (offering [tokenAndOther, keyAlone]) plainRequest (some "/pets") none [] [keyAlone]
    tokenAndOther [.text "token"] [] names (.text "other") (cacheOf none) 0 rfl rfl
    (resolve_offering _) (resolve_offering _) hsorted names_tokenAndOther lacks_other hcache).1
    hquiet
  have hdecorated := h.2 keyAlone [] _ _ rfl rfl isNamed_keyAlone (tryRequirement_keyAlone _ _ _)
  rw [hstamp] at hdecorated
  exact ⟨lacks_other, hdecorated⟩

/-! ### When it can be seen -/

/-- An endpoint that gives no answer. -/
def silent : Endpoint Unit := fun _ s => (.failure "down", s)

theorem atNoon_silent : ∃ url,
    atNoon silent (cacheOf none, ()) =
      (.error (.requestFailed url "down"), (cacheOf none, ())) := by
  obtain ⟨request, hask⟩ := exists_authenticate silent ()
  have hobtain :
      (cacheOf none).obtain (keyAndClient.client.authenticate silent) false noonOf2024 () =
        (.error (.requestFailed request.url "down"), cacheOf none, ()) :=
    Cache.obtain_of_fault rfl hask rfl
  exact ⟨request.url, cachedBearer_of_obtain_error (u := (cacheOf none, ())) hobtain⟩

theorem tryRequirement_tokenAlone {σ : Type} {endpoint : Endpoint σ} {u v : Cache × σ}
    {access : Value} (h : atNoon endpoint u = (.ok access, v)) (alternatives : List Requirement) :
    ((offering alternatives).keyring (atNoon endpoint)).tryRequirement tokenAlone u =
      (.ok (.satisfied (authorization (bearerHeader access))), v) := by
  have hnames : tokenAlone.map Prod.fst = [.text "token"] := rfl
  rw [Keyring.tryRequirement, Keyring.credential, hnames, gather_token h]
  rfl

theorem tryRequirement_tokenAndOther {σ : Type} {endpoint : Endpoint σ} {u v : Cache × σ}
    {access : Value} (h : atNoon endpoint u = (.ok access, v)) (alternatives : List Requirement) :
    ((offering alternatives).keyring (atNoon endpoint)).tryRequirement tokenAndOther u =
      (.ok (.unsatisfiable (.schemeUnknown "other")), v) := by
  rw [Keyring.tryRequirement, Keyring.credential, names_tokenAndOther, Keyring.gather_append,
    gather_token h]
  rfl

theorem atNoon_anInstant :
    atNoon (answering anInstant) (cacheOf none, 0) =
        (.ok (.text "A"), (cacheOf (some (keptAtNoon "A" 0)), 1)) ∧
      atNoon (answering anInstant) (cacheOf (some (keptAtNoon "A" 0)), 1) =
        (.ok (.text "B"), (cacheOf (some (keptAtNoon "B" 0)), 2)) := by
  have hexpired : (cacheOf (some (keptAtNoon "A" 0))).snapshot.usable? noonOf2024 = none := by
    simp [cacheOf, Cache.snapshot, Snapshot.usable?, Option.filter]
  have hempty : (cacheOf none).snapshot.usable? noonOf2024 = none := rfl
  have hfirst := obtain_answering read_anInstant_zero (by decide) rfl hempty
  have hsecond := obtain_answering read_anInstant_one (by decide) rfl hexpired
  exact ⟨cachedBearer_of_obtain_ok (u := (cacheOf none, 0)) hfirst,
    cachedBearer_of_obtain_ok (u := (cacheOf (some (keptAtNoon "A" 0)), 1)) hsecond⟩

/-- Without an answer of the endpoint the token in front ends everything. -/
theorem seen_silent :
    (∃ fault, seen (offering [tokenAndOther, keyAlone]) silent () = (.error fault, plainRequest)) ∧
      seen (offering [keyAlone]) silent () = (.ok (), plainWith "X-Key" "K") := by
  constructor
  · obtain ⟨url, hask⟩ := atNoon_silent
    have htry : ((offering [tokenAndOther, keyAlone]).keyring (atNoon silent)).tryRequirement
        tokenAndOther (cacheOf none, ()) =
          (.error (.requestFailed url "down"), (cacheOf none, ())) :=
      Keyring.tryRequirement_of_fault names_tokenAndOther (gather_token hask _) rfl
    refine ⟨.requestFailed url "down", ?_⟩
    rw [seen, visible_decorate (resolve_offering _), choose, firstSatisfiable_of_error htry]
    rfl
  · exact visible_of_satisfied (resolve_offering ([] ++ [keyAlone])) rfl rfl
      (tryRequirement_keyAlone silent _ _)

theorem stamp_bearer (access : String) :
    (authorization (bearerHeader (.text access))).stamp plainRequest =
      (.ok (), plainWith "Authorization" ("Bearer " ++ access)) := rfl

/-- A token that expires at once is used up by the scheme in front. -/
theorem seen_anInstant :
    seen (offering [tokenAndOther, tokenAlone]) (answering anInstant) 0 =
        (.ok (), plainWith "Authorization" ("Bearer " ++ "B")) ∧
      seen (offering [tokenAlone]) (answering anInstant) 0 =
        (.ok (), plainWith "Authorization" ("Bearer " ++ "A")) := by
  obtain ⟨hfirst, hsecond⟩ := atNoon_anInstant
  rw [← stamp_bearer, ← stamp_bearer]
  constructor
  · obtain ⟨names, hsorted⟩ := isNamed_tokenAndOther.sorted
    have hreached : firstSatisfiable ((offering [tokenAndOther, tokenAlone]).keyring
        (atNoon (answering anInstant))) [tokenAndOther] (cacheOf none, 0) =
          (.ok none, (cacheOf (some (keptAtNoon "A" 0)), 1)) := by
      rw [firstSatisfiable, tryRequirement_tokenAndOther hfirst]
      simp only [hsorted]
      rfl
    exact visible_of_satisfied (resolve_offering ([tokenAndOther] ++ [tokenAlone])) hreached rfl
      (tryRequirement_tokenAlone hsecond _)
  · exact visible_of_satisfied (resolve_offering ([] ++ [tokenAlone])) rfl rfl
      (tryRequirement_tokenAlone hfirst _)

/-- An alternative of unknown schemes whose names have no order. -/
def mixedNames : Requirement := [(.text "other", []), (.int 1, [])]

/-- Names without an order end everything. -/
theorem seen_mixedNames :
    seen (offering [mixedNames, keyAlone]) silent () = (.error .typeMismatch, plainRequest) := by
  have htry : ((offering [mixedNames, keyAlone]).keyring (atNoon silent)).tryRequirement mixedNames
      (cacheOf none, ()) =
        (.ok (.unsatisfiable (.schemeUnknown "other")), (cacheOf none, ())) := rfl
  have hsorted : Value.sorted (mixedNames.map Prod.fst) = .error .typeMismatch := by
    simp [mixedNames, Value.sorted, Value.less?]
  rw [seen, visible_decorate (resolve_offering _), choose, firstSatisfiable, htry]
  simp only [hsorted]
  rfl

/-- An operation with some alternatives, where keys are listed, and one that goes by a list cannot
be sent. -/
def listing (alternatives : List Requirement) : Authenticator where
  config := { keyAndClient with apiKeys := [("X-Key", "K")] }
  security := {
    schemes := (.text "odd",
      ⟨.text "odd", .null, .apiKey (.text "body") (.list [.text "k"])⟩) ::
        tokenOrKey.security.schemes
    table := ⟨[(⟨"/pets", "GET"⟩, alternatives)], []⟩ }
  basePath := []

/-- The alternative of the key that cannot be sent. -/
def oddKey : Requirement := [(.text "odd", [])]

theorem resolve_listing (alternatives : List Requirement) :
    (listing alternatives).security.table.resolve (some "/pets")
      ((none : Option String).filter (!·.isEmpty) <|> plainRequest.method) = .ok alternatives := rfl

/-- A name that cannot be looked up ends everything. -/
theorem seen_oddKey :
    seen (listing [oddKey, keyAlone]) silent () = (.error .typeMismatch, plainRequest) ∧
      seen (listing [keyAlone]) silent () = (.ok (), plainWith "X-Key" "K") := by
  constructor
  · have htry : ((listing [oddKey, keyAlone]).keyring (atNoon silent)).tryRequirement oddKey
        (cacheOf none, ()) = (.error .typeMismatch, (cacheOf none, ())) := rfl
    rw [seen, visible_decorate (resolve_listing _), choose, firstSatisfiable_of_error htry]
    rfl
  · have htry : ((listing [keyAlone]).keyring (atNoon silent)).tryRequirement keyAlone
        (cacheOf none, ()) =
          (.ok (.satisfied ⟨[(.text "X-Key", "K")], [], []⟩), (cacheOf none, ())) := rfl
    exact visible_of_satisfied (resolve_listing ([] ++ [keyAlone])) rfl rfl htry

theorem plainWith_ne {name value name' value' : String} (h : (name, value) ≠ (name', value')) :
    plainWith name value ≠ plainWith name' value' := by
  intro heq
  exact h (by simpa [plainWith] using heq)

/-- **An alternative with an unknown scheme can be seen**: when a token in front of that scheme
cannot be fetched, when it expires at once, and when its names have no order. So can one with a key
that cannot be sent, when its name cannot be looked up. -/
theorem unknown_scheme_seen :
    (Lacks keyAndClient tokenOrKey.security.schemes (.text "other") ∧
      seen (offering [tokenAndOther, keyAlone]) silent () ≠ seen (offering [keyAlone]) silent () ∧
      seen (offering [tokenAndOther, tokenAlone]) (answering anInstant) 0 ≠
        seen (offering [tokenAlone]) (answering anInstant) 0 ∧
      seen (offering [mixedNames, keyAlone]) silent () ≠ seen (offering [keyAlone]) silent ()) ∧
    (listing [oddKey, keyAlone]).security.schemes.lookup (.text "odd") =
        .ok ⟨.text "odd", .null, .apiKey (.text "body") (.list [.text "k"])⟩ ∧
      seen (listing [oddKey, keyAlone]) silent () ≠ seen (listing [keyAlone]) silent () := by
  obtain ⟨⟨fault, hfault⟩, hkey⟩ := seen_silent
  obtain ⟨hsecond, hfirst⟩ := seen_anInstant
  obtain ⟨hodd, hlisted⟩ := seen_oddKey
  refine ⟨⟨lacks_other, ?_, ?_, ?_⟩, rfl, ?_⟩
  · rw [hfault, hkey]
    exact fun h => nomatch (Prod.mk.inj h).1
  · rw [hsecond, hfirst]
    exact fun h => plainWith_ne (by decide) (Prod.mk.inj h).2
  · rw [seen_mixedNames, hkey]
    exact fun h => nomatch (Prod.mk.inj h).1
  · rw [hodd, hlisted]
    exact fun h => nomatch (Prod.mk.inj h).1

end Authenticator

end RequestAuth
