import RequestAuth.Proofs.Decoration
import RequestAuth.Proofs.Keyring

/-!
# Asking for a token ahead of time

Two decorations that start in related states give the same, step by step, and end in related states,
when the source of tokens does (`Respects`). So nobody can tell whether a token was asked for ahead
of time, when the source gives the same token once more (`Ahead`): an alternative that is skipped
can be left out when it does nothing but that.
-/

namespace RequestAuth

variable {τ : Type} {bearer : Bearer τ} {R : τ → τ → Prop} {s t u : τ}

/-- Two computations give the same, and end in related states. -/
structure Agrees {α : Type} (R : τ → τ → Prop) (x y : α × τ) : Prop where
  /-- The results are the same. -/
  result : y.1 = x.1
  /-- The states are related. -/
  state : R x.2 y.2

/-- A source of tokens gives the same token in related states, and they stay related. -/
def Respects (bearer : Bearer τ) (R : τ → τ → Prop) : Prop :=
  ∀ s u, R s u → Agrees R (bearer s) (bearer u)

/-- A state is the given one, or the one after a token was obtained that is given once more. -/
def Ahead (bearer : Bearer τ) (s u : τ) : Prop :=
  u = s ∨ ∃ access, bearer s = (.ok access, u) ∧ bearer u = (.ok access, u)

theorem Ahead.refl (bearer : Bearer τ) (s : τ) : Ahead bearer s s := .inl rfl

/-- Who has asked before gets what is given to who has not. -/
theorem respects_ahead (bearer : Bearer τ) : Respects bearer (Ahead bearer) := by
  rintro s u (rfl | ⟨access, hs, hu⟩)
  · exact ⟨rfl, .refl bearer _⟩
  · rw [hs, hu]
    exact ⟨rfl, .refl bearer u⟩

/-- Asking once more than a state that is ahead at most leads to one that is ahead at most. -/
theorem Ahead.of_ask {result : Except Fault Value} (hs : Ahead bearer s t)
    (h : bearer t = (result, u))
    (hresult : ∀ fault, result = .error fault → fault.isUnsatisfiable = true)
    (hfresh : ∀ access v, bearer s = (.ok access, v) → bearer v = (.ok access, v))
    (hkept : ∀ fault v, bearer s = (.error fault, v) → fault.isUnsatisfiable = true → v = s) :
    Ahead bearer s u := by
  rcases hs with rfl | ⟨access, hs, ht⟩
  · cases result with
    | ok access => exact .inr ⟨access, h, hfresh access u h⟩
    | error fault => exact .inl (hkept fault u h (hresult fault rfl))
  -- who is ahead gets the same token, and is as far ahead as before
  · rw [ht] at h
    cases h
    exact .inr ⟨access, hs, ht⟩

/-- A set of states that the source of tokens keeps is a relation of states with themselves. -/
theorem respects_of_kept {I : τ → Prop} (h : ∀ s, I s → I (bearer s).2) :
    Respects bearer fun s u => u = s ∧ I s := by
  rintro s u ⟨rfl, hs⟩
  exact ⟨rfl, rfl, h u hs⟩

namespace Keyring

variable {k : Keyring τ} {names : List Value} {c : Credential}

theorem agrees_token (hk : k.bearer = some bearer) (hR : Respects bearer R) (h : R s u) :
    Agrees R (k.token s) (k.token u) := by
  obtain ⟨hresult, hstate⟩ := hR s u h
  rcases hs : bearer s with ⟨result, s'⟩
  rcases hu : bearer u with ⟨result', u'⟩
  rw [hs, hu] at hresult hstate
  cases hresult
  simp only [token, hk, hs, hu]
  cases result with
  | ok access => exact ⟨rfl, hstate⟩
  | error fault => exact ⟨rfl, hstate⟩

theorem agrees_build (hk : k.bearer = some bearer) (hR : Respects bearer R) (h : R s u)
    (scheme : Scheme) : Agrees R (k.build scheme s) (k.build scheme u) := by
  unfold build
  cases scheme.kind with
  | apiKey location parameterName => exact ⟨rfl, h⟩
  | http subscheme bearerFormat => exact ⟨rfl, h⟩
  | oauth2 flows => exact agrees_token hk hR h
  | openIdConnect url => exact ⟨rfl, h⟩

theorem agrees_buildNamed (hk : k.bearer = some bearer) (hR : Respects bearer R) (h : R s u)
    (name : Value) : Agrees R (k.buildNamed name s) (k.buildNamed name u) := by
  unfold buildNamed
  cases k.schemes.lookup name with
  | error fault => exact ⟨rfl, h⟩
  | ok scheme => exact agrees_build hk hR h scheme

theorem agrees_gather (hk : k.bearer = some bearer) (hR : Respects bearer R) (h : R s u) :
    Agrees R (k.gather names c s) (k.gather names c u) := by
  induction names generalizing c s u with
  | nil => exact ⟨rfl, h⟩
  | cons name names ih =>
    obtain ⟨hresult, hstate⟩ := agrees_buildNamed hk hR h name
    rcases hs : k.buildNamed name s with ⟨result, s'⟩
    rcases hu : k.buildNamed name u with ⟨result', u'⟩
    rw [hs, hu] at hresult hstate
    cases hresult
    rw [gather, gather, hs, hu]
    cases result with
    | error fault => exact ⟨rfl, hstate⟩
    | ok d => exact ih hstate

theorem agrees_tryRequirement (hk : k.bearer = some bearer) (hR : Respects bearer R) (h : R s u)
    (r : Requirement) : Agrees R (k.tryRequirement r s) (k.tryRequirement r u) := by
  obtain ⟨hresult, hstate⟩ : Agrees R (k.credential r s) (k.credential r u) :=
    agrees_gather hk hR h
  exact ⟨congrArg Outcome.ofResult hresult, hstate⟩

theorem agrees_fallback (hk : k.bearer = some bearer) (hR : Respects bearer R) (h : R s u) :
    Agrees R (k.fallback s) (k.fallback u) := by
  unfold fallback
  cases k.config.authenticationType with
  | none => exact ⟨rfl, h⟩
  | apiKey => exact ⟨rfl, h⟩
  | http => exact ⟨rfl, h⟩
  | oauth => exact agrees_token hk hR h

theorem agrees_tryFallback (hk : k.bearer = some bearer) (hR : Respects bearer R) (h : R s u) :
    Agrees R (k.tryFallback s) (k.tryFallback u) := by
  obtain ⟨hresult, hstate⟩ := agrees_fallback hk hR h
  exact ⟨congrArg Outcome.ofResult hresult, hstate⟩

end Keyring

/-! ### Building ahead of time -/

/-- Whether the scheme of a name asks for a token. -/
def Registry.AsksToken (schemes : Registry) (name : Value) : Prop :=
  ∃ scheme flows, schemes.lookup name = .ok scheme ∧ scheme.kind = .oauth2 flows

namespace Keyring

variable {k : Keyring τ} {name : Value} {names : List Value} {c : Credential}

/-- Building a scheme asks for a token only if the scheme asks for one. -/
theorem ahead_of_buildNamed (hk : k.bearer = some bearer) {result : Except Fault Credential}
    (h : k.buildNamed name t = (result, u))
    (hresult : ∀ fault, result = .error fault → fault.isUnsatisfiable = true)
    (hfresh : k.schemes.AsksToken name → ∀ access v, bearer s = (.ok access, v) →
      bearer v = (.ok access, v))
    (hkept : ∀ fault v, bearer s = (.error fault, v) → fault.isUnsatisfiable = true → v = s)
    (hs : Ahead bearer s t) : Ahead bearer s u := by
  cases hlookup : k.schemes.lookup name with
  | error fault =>
    rw [buildNamed, hlookup] at h
    cases h
    exact hs
  | ok scheme =>
    rw [buildNamed_of_lookup hlookup, build] at h
    cases hkind : scheme.kind with
    | oauth2 flows =>
      simp only [hkind, token, hk] at h
      have hfresh := hfresh ⟨scheme, flows, hlookup, hkind⟩
      rcases hask : bearer t with ⟨fault | access, v⟩
      · rw [hask] at h
        cases h
        exact hs.of_ask hask (by rintro _ ⟨⟩; exact hresult fault rfl) hfresh hkept
      · rw [hask] at h
        cases h
        exact hs.of_ask hask (by rintro _ ⟨⟩) hfresh hkept
    | apiKey | http | openIdConnect =>
      rw [hkind] at h
      cases h
      exact hs

/-- Building some schemes asks for a token once at most, and only if one of them asks for one. -/
theorem ahead_of_gather (hk : k.bearer = some bearer) {result : Except Fault Credential}
    (h : k.gather names c t = (result, u))
    (hresult : ∀ fault, result = .error fault → fault.isUnsatisfiable = true)
    (hfresh : (∃ name ∈ names, k.schemes.AsksToken name) → ∀ access v,
      bearer s = (.ok access, v) → bearer v = (.ok access, v))
    (hkept : ∀ fault v, bearer s = (.error fault, v) → fault.isUnsatisfiable = true → v = s)
    (hs : Ahead bearer s t) : Ahead bearer s u := by
  induction names generalizing c t with
  | nil =>
    cases h
    exact hs
  | cons name names ih =>
    have hfirst : k.schemes.AsksToken name → ∀ access v,
        bearer s = (.ok access, v) → bearer v = (.ok access, v) :=
      fun hasks => hfresh ⟨name, .head _, hasks⟩
    rcases hbuild : k.buildNamed name t with ⟨fault | d, v⟩
    · rw [gather, hbuild] at h
      cases h
      exact ahead_of_buildNamed hk hbuild (by rintro _ ⟨⟩; exact hresult fault rfl) hfirst hkept hs
    · rw [gather, hbuild] at h
      refine ih h ?_ (ahead_of_buildNamed hk hbuild (by rintro _ ⟨⟩) hfirst hkept hs)
      rintro ⟨name', hmem, hasks⟩
      exact hfresh ⟨name', .tail _ hmem, hasks⟩

end Keyring

/-! ### Choosing -/

namespace Authenticator

variable {k : Keyring τ} {r : Requirement} {before after : List Requirement}

theorem agrees_firstSatisfiable (hk : k.bearer = some bearer) (hR : Respects bearer R) (h : R s u)
    (alternatives : List Requirement) :
    Agrees R (firstSatisfiable k alternatives s) (firstSatisfiable k alternatives u) := by
  induction alternatives generalizing s u with
  | nil => exact ⟨rfl, h⟩
  | cons r rest ih =>
    obtain ⟨hresult, hstate⟩ := Keyring.agrees_tryRequirement hk hR h r
    rcases hs : k.tryRequirement r s with ⟨result, s'⟩
    rcases hu : k.tryRequirement r u with ⟨result', u'⟩
    rw [hs, hu] at hresult hstate
    cases hresult
    rw [firstSatisfiable, firstSatisfiable, hs, hu]
    cases result with
    | error fault => exact ⟨rfl, hstate⟩
    | ok outcome =>
      cases Value.sorted (r.map Prod.fst) with
      | error fault => exact ⟨rfl, hstate⟩
      | ok names =>
        cases outcome with
        | satisfied c => exact ⟨rfl, hstate⟩
        | unsatisfiable cause => exact ih hstate

/-- Alternatives are tried one after the other. -/
theorem firstSatisfiable_append_eq (k : Keyring τ) (before after : List Requirement) (t : τ) :
    firstSatisfiable k (before ++ after) t =
      match firstSatisfiable k before t with
      | (.ok none, s) => firstSatisfiable k after s
      | ended => ended := by
  induction before generalizing t with
  | nil => rfl
  | cons r rest ih =>
    rw [List.cons_append, firstSatisfiable, firstSatisfiable]
    rcases k.tryRequirement r t with ⟨fault | outcome, s⟩
    · rfl
    · cases Value.sorted (r.map Prod.fst) with
      | error fault => rfl
      | ok names =>
        cases outcome with
        | satisfied c => rfl
        | unsatisfiable cause => exact ih s

/-- A skipped alternative can be left out when the states in front of it and behind it are
related. -/
theorem agrees_of_skipped (hk : k.bearer = some bearer) (hR : Respects bearer R)
    (hrefl : ∀ s, R s s) {names : List Value}
    (hsorted : Value.sorted (r.map Prod.fst) = .ok names)
    (h : ∀ s, firstSatisfiable k before t = (.ok none, s) →
      ∃ cause u, k.tryRequirement r s = (.ok (.unsatisfiable cause), u) ∧ R s u) :
    Agrees R (firstSatisfiable k (before ++ after) t)
      (firstSatisfiable k (before ++ r :: after) t) := by
  rw [firstSatisfiable_append_eq, firstSatisfiable_append_eq]
  rcases hbefore : firstSatisfiable k before t with ⟨fault | _ | c, s⟩
  · exact ⟨rfl, hrefl _⟩
  · obtain ⟨cause, u, htry, hstate⟩ := h s hbefore
    have hskip : firstSatisfiable k (r :: after) s = firstSatisfiable k after u := by
      rw [firstSatisfiable, htry]
      simp only [hsorted]
    simp only [hskip]
    exact agrees_firstSatisfiable hk hR hstate after
  · exact ⟨rfl, hrefl _⟩

/-! ### What can be seen -/

/-- The credentials that are chosen, without the notices. -/
def chosen {α : Type} (x : Except Fault (Option Credential × α) × τ) :
    Except Fault (Option Credential) := x.1.map Prod.fst

/-- The fallback is chosen the same way for all operations. -/
theorem chosen_fallbackFor (hk : k.bearer = some bearer) (hR : Respects bearer R) (h : R s u)
    (required required' : Bool) (described described' : String) :
    chosen (fallbackFor k required' described' u) =
      chosen (fallbackFor k required described s) := by
  unfold fallbackFor
  split
  · rfl
  · obtain ⟨hresult, -⟩ := Keyring.agrees_tryFallback hk hR h
    rcases hs : k.tryFallback s with ⟨result, s'⟩
    rcases hu : k.tryFallback u with ⟨result', u'⟩
    rw [hs, hu] at hresult
    cases hresult
    rcases result with fault | c | cause
    · rfl
    · rfl
    · rfl

/-- What is chosen depends on the first alternative that can be satisfied. -/
theorem chosen_choose (hk : k.bearer = some bearer) (hR : Respects bearer R)
    {xs ys : List Requirement} (h : Agrees R (firstSatisfiable k xs t) (firstSatisfiable k ys t))
    (described described' : String) :
    chosen (choose k ys described' t) = chosen (choose k xs described t) := by
  obtain ⟨hresult, hstate⟩ := h
  rcases hxs : firstSatisfiable k xs t with ⟨result, s⟩
  rcases hys : firstSatisfiable k ys t with ⟨result', u⟩
  rw [hxs, hys] at hresult hstate
  cases hresult
  rw [choose, choose, hxs, hys]
  rcases result with fault | _ | c
  · rfl
  · exact chosen_fallbackFor hk hR hstate _ _ _ _
  · rfl

end Authenticator

/-- What can be seen of a decoration from outside: not the notices, and not the source of tokens. -/
def Decoration.visible (d : Decoration τ) : Except Fault Unit × Request :=
  (d.result.map fun _ => (), d.request)

/-- A request with credentials stamped onto it, if any are chosen. -/
def stampChosen (request : Request) : Except Fault (Option Credential) → Except Fault Unit × Request
  | .error fault => (.error fault, request)
  | .ok none => (.ok (), request)
  | .ok (some c) => c.stamp request

/-- What can be seen of a decoration is what was chosen. -/
theorem Authenticator.visible_decorate {a : Authenticator} {bearer : Bearer τ} {request : Request}
    {path method : Option String} {alternatives : List Requirement}
    (hresolve : a.security.table.resolve path (method.filter (!·.isEmpty) <|> request.method) =
      .ok alternatives) (t : τ) :
    (a.decorate bearer request path method t).visible = stampChosen request
      (chosen (choose (a.keyring bearer) alternatives
        ((method.filter (!·.isEmpty) <|> request.method).getD "" ++ " " ++ path.getD "") t)) := by
  unfold decorate
  simp only [hresolve]
  rcases choose (a.keyring bearer) alternatives
      ((method.filter (!·.isEmpty) <|> request.method).getD "" ++ " " ++ path.getD "") t with
    ⟨fault | ⟨_ | c, notices⟩, s⟩
  · rfl
  · rfl
  · rcases hc : c.stamp request with ⟨fault | _, stamped⟩ <;>
      simp [chosen, stampChosen, Decoration.visible, hc, Except.map]

/-- The first alternative that can be satisfied is stamped. -/
theorem Authenticator.visible_of_satisfied {a : Authenticator} {bearer : Bearer τ}
    {request : Request} {path method : Option String} {before after : List Requirement}
    {r : Requirement} {names : List Value} {c : Credential}
    (hresolve : a.security.table.resolve path (method.filter (!·.isEmpty) <|> request.method) =
      .ok (before ++ r :: after))
    (hreached : firstSatisfiable (a.keyring bearer) before t = (.ok none, s))
    (hsorted : Value.sorted (r.map Prod.fst) = .ok names)
    (htry : (a.keyring bearer).tryRequirement r s = (.ok (.satisfied c), u)) :
    (a.decorate bearer request path method t).visible = c.stamp request := by
  rw [visible_decorate hresolve, choose, firstSatisfiable_append_eq, hreached]
  simp only [firstSatisfiable, htry, hsorted]
  rfl

end RequestAuth
