import RequestAuth.Proofs.Insertion

/-!
# Requests that need no token

What is built for schemes that ask for no token is what a key ring without a source of tokens builds
(`Keyring.untokened`), and the source is left as it is. So a request whose alternatives ask for no
token, up to the first one that can be satisfied, depends neither on the token cache nor on the
endpoint (`NeedsNoToken`).

The alternatives behind that one may ask for tokens, since they are not tried. When none can be
satisfied all of them are tried, and then the fallback.
-/

namespace RequestAuth

variable {τ τ' : Type}

/-! ### Without a source of tokens -/

/-- An alternative names a scheme that asks for a token. -/
def Registry.NamesToken (schemes : Registry) (r : Requirement) : Prop :=
  ∃ e ∈ r, schemes.AsksToken e.1

namespace Keyring

variable {k : Keyring τ} {name : Value} {names : List Value} {r : Requirement}

/-- The key ring without its source of tokens. -/
def untokened (k : Keyring τ) : Keyring Unit := ⟨k.config, k.schemes, none⟩

theorem buildNamed_of_tokenless (h : ¬ k.schemes.AsksToken name) (t : τ) :
    k.buildNamed name t = ((k.untokened.buildNamed name ()).1, t) := by
  unfold buildNamed
  cases hlookup : k.schemes.lookup name with
  | error fault => simp only [untokened, hlookup]
  | ok scheme =>
    simp only [untokened, hlookup, build]
    cases hkind : scheme.kind with
    | oauth2 flows => exact absurd ⟨scheme, flows, hlookup, hkind⟩ h
    | apiKey location parameterName => rfl
    | http subscheme bearerFormat => rfl
    | openIdConnect url => rfl

theorem gather_of_tokenless (h : ∀ name ∈ names, ¬ k.schemes.AsksToken name) (c : Credential)
    (t : τ) : k.gather names c t = ((k.untokened.gather names c ()).1, t) := by
  induction names generalizing c with
  | nil => rfl
  | cons name names ih =>
    obtain ⟨hname, hnames⟩ := List.forall_mem_cons.mp h
    rw [gather, gather, buildNamed_of_tokenless hname]
    rcases k.untokened.buildNamed name () with ⟨fault | d, u⟩
    · rfl
    · exact ih hnames (c.merge d)

theorem tryRequirement_of_tokenless (h : ¬ k.schemes.NamesToken r) (t : τ) :
    k.tryRequirement r t = ((k.untokened.tryRequirement r ()).1, t) := by
  have hnames : ∀ name ∈ r.map Prod.fst, ¬ k.schemes.AsksToken name := by
    intro name hname hasks
    obtain ⟨e, he, rfl⟩ := List.mem_map.mp hname
    exact h ⟨e, he, hasks⟩
  unfold tryRequirement credential
  rw [gather_of_tokenless hnames]

theorem tryFallback_of_tokenless (h : k.config.authenticationType ≠ .oauth) (t : τ) :
    k.tryFallback t = ((k.untokened.tryFallback ()).1, t) := by
  have hconfig : k.untokened.config = k.config := rfl
  unfold tryFallback fallback
  rw [hconfig]
  cases htype : k.config.authenticationType with
  | oauth => exact absurd htype h
  | none => rfl
  | apiKey => rfl
  | http => rfl

/-- An alternative can be satisfied. -/
def Satisfies (k : Keyring τ) (r : Requirement) (t : τ) : Prop :=
  ∃ c u, k.tryRequirement r t = (.ok (.satisfied c), u)

end Keyring

/-! ### Choosing without tokens -/

/-- No token is needed for some alternatives: none is asked for up to the first one that can be
satisfied. If there is none, no alternative asks for one and neither does the fallback. -/
structure NeedsNoToken (k : Keyring τ) (alternatives : List Requirement) (t : τ) : Prop where
  /-- An alternative asks for no token if none in front of it can be satisfied. -/
  names : ∀ before r after, alternatives = before ++ r :: after →
    (∀ q ∈ before, ¬ k.Satisfies q t) → ¬ k.schemes.NamesToken r
  /-- The fallback is no token if no alternative can be satisfied. -/
  fallback : (∀ r ∈ alternatives, ¬ k.Satisfies r t) → k.config.authenticationType ≠ .oauth

section Choosing

variable {k : Keyring τ} {k' : Keyring τ'} {r : Requirement} {rest alternatives : List Requirement}
  {t : τ}

theorem needsNoToken_nil :
    NeedsNoToken k [] t ↔ k.config.authenticationType ≠ .oauth := by
  constructor
  · intro h
    exact h.fallback (by simp)
  · intro h
    refine ⟨?_, fun _ => h⟩
    intro before r after heq
    simp at heq

theorem needsNoToken_cons :
    NeedsNoToken k (r :: rest) t ↔
      ¬ k.schemes.NamesToken r ∧ (¬ k.Satisfies r t → NeedsNoToken k rest t) := by
  constructor
  · intro h
    refine ⟨h.names [] r rest rfl (by simp), fun hr => ⟨?names, ?fallback⟩⟩
    case names =>
      intro before q after heq hbefore
      exact h.names (r :: before) q after (by rw [heq, List.cons_append])
        (List.forall_mem_cons.mpr ⟨hr, hbefore⟩)
    case fallback =>
      intro hrest
      exact h.fallback (List.forall_mem_cons.mpr ⟨hr, hrest⟩)
  · rintro ⟨hr, hrest⟩
    constructor
    case names =>
      intro before q after heq hbefore
      cases before with
      | nil =>
        obtain ⟨rfl, -⟩ := List.cons.inj heq
        exact hr
      | cons p before =>
        obtain ⟨rfl, htail⟩ := List.cons.inj heq
        obtain ⟨hp, hbefore⟩ := List.forall_mem_cons.mp hbefore
        exact (hrest hp).names before q after htail hbefore
    case fallback =>
      intro hnone
      obtain ⟨hr, hnone⟩ := List.forall_mem_cons.mp hnone
      exact (hrest hr).fallback hnone

namespace Authenticator

/-- The first alternative that can be satisfied is the same for all sources of tokens, and if there
is none then the fallback is no token. -/
theorem firstSatisfiable_of_needsNoToken (h : NeedsNoToken k alternatives t)
    (hk : k'.untokened = k.untokened) (t' : τ') :
    firstSatisfiable k' alternatives t' = ((firstSatisfiable k.untokened alternatives ()).1, t') ∧
      ((firstSatisfiable k.untokened alternatives ()).1 = .ok none →
        k.config.authenticationType ≠ .oauth) := by
  induction alternatives with
  | nil => exact ⟨rfl, fun _ => needsNoToken_nil.mp h⟩
  | cons r rest ih =>
    obtain ⟨hr, hrest⟩ := needsNoToken_cons.mp h
    have hschemes : k'.schemes = k.schemes := congrArg Keyring.schemes hk
    have htry : k.tryRequirement r t = ((k.untokened.tryRequirement r ()).1, t) :=
      Keyring.tryRequirement_of_tokenless hr t
    have htry' : k'.tryRequirement r t' = ((k.untokened.tryRequirement r ()).1, t') := by
      rw [← hk]
      exact Keyring.tryRequirement_of_tokenless (by rwa [hschemes]) t'
    rw [firstSatisfiable, firstSatisfiable, htry']
    rcases hresult : k.untokened.tryRequirement r () with ⟨fault | outcome, u⟩
    · exact ⟨rfl, fun h => by cases h⟩
    · cases Value.sorted (r.map Prod.fst) with
      | error fault => exact ⟨rfl, fun h => by cases h⟩
      | ok names =>
        cases outcome with
        | satisfied c => exact ⟨rfl, fun h => by cases h⟩
        | unsatisfiable cause =>
          -- the alternatives behind this one are tried, since it cannot be satisfied here either
          have hskipped : ¬ k.Satisfies r t := by
            rintro ⟨c, v, hsatisfied⟩
            rw [hresult] at htry
            cases htry.symm.trans hsatisfied
          exact ih (hrest hskipped)

theorem fallbackFor_of_tokenless (h : k.config.authenticationType ≠ .oauth) (required : Bool)
    (described : String) (t : τ) :
    fallbackFor k required described t =
      ((fallbackFor k.untokened required described ()).1, t) := by
  have hconfig : k.untokened.config = k.config := rfl
  unfold fallbackFor
  rw [Keyring.tryFallback_of_tokenless h, hconfig]
  split
  · rfl
  · rcases k.untokened.tryFallback () with ⟨fault | c | cause, u⟩
    · rfl
    · rfl
    · rfl

/-- What is chosen is the same for all sources of tokens, and they are left as they are. -/
theorem choose_of_needsNoToken (h : NeedsNoToken k alternatives t)
    (hk : k'.untokened = k.untokened) (described : String) (t' : τ') :
    choose k' alternatives described t' =
      ((choose k.untokened alternatives described ()).1, t') := by
  obtain ⟨hfirst, hfallback⟩ := firstSatisfiable_of_needsNoToken h hk t'
  have hconfig : k'.config = k.config := congrArg Keyring.config hk
  rw [choose, choose, hfirst]
  rcases hresult : firstSatisfiable k.untokened alternatives () with ⟨fault | _ | c, u⟩
  · rfl
  · have htype : k'.config.authenticationType ≠ .oauth := by
      rw [hconfig]
      exact hfallback (by rw [hresult])
    rw [← hk]
    exact fallbackFor_of_tokenless htype _ _ _
  · rfl

end Authenticator

end Choosing

/-! ### Decorating without tokens -/

/-- An endpoint that takes down the requests it gets. -/
def Endpoint.recorded {σ : Type} (endpoint : Endpoint σ) : Endpoint (σ × List TokenRequest) :=
  fun request (s, requests) =>
    let (reply, s) := endpoint request s
    (reply, s, requests ++ [request])

namespace Authenticator

variable {a : Authenticator} {request : Request} {path method : Option String}

/-- What a decoration gives is the same for all sources of tokens, and they are left as they are. -/
theorem decorate_of_needsNoToken {bearer : Bearer τ} {t : τ}
    (h : ∀ alternatives,
      a.security.table.resolve path (method.filter (!·.isEmpty) <|> request.method) =
        .ok alternatives → NeedsNoToken (a.keyring bearer) alternatives t)
    (bearer' : Bearer τ') (t' : τ') :
    (a.decorate bearer' request path method t').state = t' ∧
      (a.decorate bearer' request path method t').result =
        (a.decorate bearer request path method t).result ∧
      (a.decorate bearer' request path method t').request =
        (a.decorate bearer request path method t).request := by
  cases hresolve : a.security.table.resolve path
      (method.filter (!·.isEmpty) <|> request.method) with
  | error fault =>
    unfold decorate
    simp only [hresolve, and_self]
  | ok alternatives =>
    have hneeds := h alternatives hresolve
    have hk : (a.keyring bearer').untokened = (a.keyring bearer).untokened := rfl
    have hchoose (described : String) := choose_of_needsNoToken hneeds rfl described t
    have hchoose' (described : String) := choose_of_needsNoToken hneeds hk described t'
    unfold decorate
    simp only [hresolve, hchoose, hchoose']
    rcases choose (a.keyring bearer).untokened alternatives
        ((method.filter (!·.isEmpty) <|> request.method).getD "" ++ " " ++ path.getD "") () with
      ⟨fault | ⟨_ | c, notices⟩, u⟩
    · exact ⟨rfl, rfl, rfl⟩
    · exact ⟨rfl, rfl, rfl⟩
    · exact ⟨rfl, rfl, rfl⟩

/-- **Requests that need no token do not depend on tokens.** Nothing is asked of the endpoint and
the cache stays as it is. What comes of the request, the notices or the fault and the request itself,
is the same with every other cache, at every other time and with every other endpoint. -/
theorem independent_of_tokens {σ : Type} {endpoint : Endpoint σ} {now : Instant} {c : Cache} {s : σ}
    (h : ∀ alternatives,
      a.security.table.resolve path (method.filter (!·.isEmpty) <|> request.method) =
        .ok alternatives →
      NeedsNoToken (a.keyring (cachedBearer a.config.client endpoint now)) alternatives (c, s)) :
    let d := a.decorate (cachedBearer a.config.client endpoint now) request path method (c, s)
    d.state = (c, s) ∧
      (∀ requests,
        (a.decorate (cachedBearer a.config.client endpoint.recorded now) request path method
          (c, s, requests)).state = (c, s, requests)) ∧
      ∀ (σ' : Type) (endpoint' : Endpoint σ') (now' : Instant) (c' : Cache) (s' : σ'),
        let d' := a.decorate (cachedBearer a.config.client endpoint' now') request path method
          (c', s')
        d'.state = (c', s') ∧ d'.result = d.result ∧ d'.request = d.request := by
  intro d
  have hsame (σ' : Type) (endpoint' : Endpoint σ') (now' : Instant) (u : Cache × σ') :=
    decorate_of_needsNoToken h (cachedBearer a.config.client endpoint' now') u
  refine ⟨(hsame σ endpoint now (c, s)).1, fun requests => ?_, ?_⟩
  · exact (hsame _ endpoint.recorded now (c, s, requests)).1
  · intro σ' endpoint' now' c' s'
    exact hsame σ' endpoint' now' (c', s')

/-- The alternative of an unknown scheme. -/
def otherAlone : Requirement := [(.text "other", [])]

/-- A key is found behind an unknown scheme, and the token behind it is not asked for: with an
endpoint that gives no answer and an empty cache the request is the same as with a token that is
kept. -/
theorem key_found_in_front_of_token :
    (∀ alternatives, (offering [otherAlone, keyAlone, tokenAlone]).security.table.resolve
        (some "/pets") ((none : Option String).filter (!·.isEmpty) <|> plainRequest.method) =
          .ok alternatives →
      NeedsNoToken ((offering [otherAlone, keyAlone, tokenAlone]).keyring (atNoon silent))
        alternatives (cacheOf none, ())) ∧
      ((offering [otherAlone, keyAlone, tokenAlone]).decorate (atNoon (answering aMinute))
        plainRequest (some "/pets") none (cacheOf (some (keptAtNoon "A" 60)), 0)).visible =
          (.ok (), plainWith "X-Key" "K") := by
  have hneeds (alternatives : List Requirement)
      (hresolve : (offering [otherAlone, keyAlone, tokenAlone]).security.table.resolve
        (some "/pets") ((none : Option String).filter (!·.isEmpty) <|> plainRequest.method) =
          .ok alternatives) :
      NeedsNoToken ((offering [otherAlone, keyAlone, tokenAlone]).keyring (atNoon silent))
        alternatives (cacheOf none, ()) := by
    obtain rfl := Except.ok.inj ((resolve_offering _).symm.trans hresolve)
    have hother : ¬ tokenOrKey.security.schemes.NamesToken otherAlone := by
      rintro ⟨e, he, scheme, flows, hlookup, -⟩
      obtain rfl := List.mem_singleton.mp he
      cases hlookup
    have hkey : ¬ tokenOrKey.security.schemes.NamesToken keyAlone := by
      rintro ⟨e, he, scheme, flows, hlookup, hkind⟩
      obtain rfl := List.mem_singleton.mp he
      cases hlookup
      cases hkind
    refine needsNoToken_cons.mpr ⟨hother, fun _ => needsNoToken_cons.mpr ⟨hkey, fun hno => ?_⟩⟩
    exact absurd ⟨_, _, tryRequirement_keyAlone silent _ _⟩ hno
  have hpicked : ((offering [otherAlone, keyAlone, tokenAlone]).decorate (atNoon silent)
      plainRequest (some "/pets") none (cacheOf none, ())).visible =
        (.ok (), plainWith "X-Key" "K") := by
    obtain ⟨names, hsorted⟩ := isNamed_keyAlone.sorted
    exact visible_of_satisfied (resolve_offering ([otherAlone] ++ keyAlone :: [tokenAlone])) rfl
      hsorted (tryRequirement_keyAlone silent _ _)
  have hsame := (independent_of_tokens hneeds).2.2 Nat (answering aMinute) noonOf2024
    (cacheOf (some (keptAtNoon "A" 60))) 0
  refine ⟨hneeds, ?_⟩
  rw [← hpicked]
  exact Prod.ext (congrArg (Except.map fun _ => ()) hsame.2.1) hsame.2.2

end Authenticator

end RequestAuth
