import RequestAuth.Authenticator
import RequestAuth.Proofs.Requirement.Table
import RequestAuth.Proofs.Results

/-!
# The first alternative that can be satisfied

`Decorates` says what comes of the alternatives of an operation without saying how it is computed:
they are tried one after the other, the state of the token source going through all tries, and the
first one that is not unsatisfiable ends the matter, by a fault or by being applied as if it were
the only one. If there is none, the configured fallback counts. `decorate` does just that, for
alternatives whose schemes are named by texts.
-/

namespace RequestAuth

variable {τ : Type}

/-- Whether the schemes of an alternative are named by texts. -/
def Requirement.IsNamed (r : Requirement) : Prop := ∀ e ∈ r, ∃ s, e.1 = .text s

/-- What comes of decorating a request but for the notices. -/
def Decoration.outcome (d : Decoration τ) : Except Fault Unit × Request × τ :=
  (d.result.map fun _ => (), d.request, d.state)

/-! ### What is to happen -/

/-- Alternatives are tried one after the other, and none can be satisfied. -/
inductive Skipped (k : Keyring τ) : List Requirement → τ → τ → Prop where
  /-- There is no alternative. -/
  | nil {t : τ} : Skipped k [] t t
  /-- The first one cannot be satisfied. -/
  | cons {r : Requirement} {rest : List Requirement} {cause : Fault} {t s u : τ} :
    k.tryRequirement r t = (.ok (.unsatisfiable cause), s) → Skipped k rest s u →
      Skipped k (r :: rest) t u

/-- What comes of a request with some alternatives. -/
inductive Decorates (k : Keyring τ) (request : Request) (alternatives : List Requirement) (t : τ) :
    Except Fault Unit × Request × τ → Prop where
  /-- A try ends in a fault. -/
  | fault {skipped rest : List Requirement} {r : Requirement} {s u : τ} {fault : Fault} :
    alternatives = skipped ++ r :: rest → Skipped k skipped t s →
      k.tryRequirement r s = (.error fault, u) →
      Decorates k request alternatives t (.error fault, request, u)
  /-- An alternative is satisfied, and applied. -/
  | apply {skipped rest : List Requirement} {r : Requirement} {s u : τ} {c : Credential} :
    alternatives = skipped ++ r :: rest → Skipped k skipped t s →
      k.tryRequirement r s = (.ok (.satisfied c), u) →
      Decorates k request alternatives t (k.apply r request s)
  /-- No fallback is configured. -/
  | leave {s : τ} : Skipped k alternatives t s → k.config.authenticationType = .none →
    Decorates k request alternatives t (.ok (), request, s)
  /-- The fallback is built. -/
  | fallback {s u : τ} {c : Credential} : Skipped k alternatives t s →
    k.config.authenticationType ≠ .none → k.fallback s = (.ok c, u) →
      Decorates k request alternatives t ((c.stamp request).1, (c.stamp request).2, u)
  /-- The fallback cannot be satisfied. -/
  | forgo {s u : τ} {cause : Fault} : Skipped k alternatives t s →
    k.config.authenticationType ≠ .none → k.fallback s = (.error cause, u) →
      cause.isUnsatisfiable = true → Decorates k request alternatives t (.ok (), request, u)
  /-- Building the fallback ends in another fault. -/
  | fallbackFault {s u : τ} {fault : Fault} : Skipped k alternatives t s →
    k.config.authenticationType ≠ .none → k.fallback s = (.error fault, u) →
      fault.isUnsatisfiable = false → Decorates k request alternatives t (.error fault, request, u)

/-! ### Names -/

theorem Value.sorted_of_texts {vs : List Value} (h : ∀ v ∈ vs, ∃ s, v = .text s) :
    ∃ ws, Value.sorted vs = .ok ws := by
  unfold Value.sorted
  split
  · exact ⟨vs, rfl⟩
  · rename_i hlen
    rw [if_pos]
    · exact ⟨_, rfl⟩
    · rw [List.all_eq_true]
      intro v hv
      obtain ⟨first, rest, rfl⟩ : ∃ first rest, vs = first :: rest :=
        List.exists_cons_of_ne_nil (by rintro rfl; simp at hlen)
      obtain ⟨a, rfl⟩ := h first (.head _)
      obtain ⟨b, rfl⟩ := h v hv
      simp [Value.less?]

theorem Requirement.IsNamed.sorted {r : Requirement} (h : r.IsNamed) :
    ∃ ws, Value.sorted (r.map Prod.fst) = .ok ws := by
  refine Value.sorted_of_texts fun v hv => ?_
  obtain ⟨e, he, rfl⟩ := List.mem_map.mp hv
  exact h e he

/-! ### Trying -/

variable {k : Keyring τ} {r : Requirement} {skipped rest : List Requirement} {t s u : τ}

theorem Outcome.ofResult_eq_satisfied {result : Except Fault Credential} {c : Credential} :
    Outcome.ofResult result = .ok (.satisfied c) ↔ result = .ok c := by
  cases result with
  | ok d => simp [ofResult]
  | error fault => by_cases h : fault.isUnsatisfiable <;> simp [ofResult, h]

/-- A satisfied try has built credentials. -/
theorem Keyring.credential_of_satisfied {c : Credential}
    (h : k.tryRequirement r t = (.ok (.satisfied c), s)) : k.credential r t = (.ok c, s) := by
  unfold tryRequirement at h
  obtain ⟨ho, hs⟩ := Prod.mk.inj h
  exact Prod.ext (Outcome.ofResult_eq_satisfied.mp ho) hs

/-- A satisfied alternative is applied by stamping the credentials that the try built. -/
theorem Keyring.apply_of_satisfied {c : Credential}
    (h : k.tryRequirement r t = (.ok (.satisfied c), s)) (request : Request) :
    k.apply r request t = ((c.stamp request).1, (c.stamp request).2, s) := by
  unfold apply
  rw [credential_of_satisfied h]

namespace Authenticator

/-- Skipped alternatives leave the choice to those behind them. -/
theorem firstSatisfiable_append (h : Skipped k skipped t s) (hn : ∀ r ∈ skipped, r.IsNamed)
    (rest : List Requirement) :
    firstSatisfiable k (skipped ++ rest) t = firstSatisfiable k rest s := by
  induction h with
  | nil => rfl
  | cons htry _ ih =>
    obtain ⟨ws, hw⟩ := (hn _ (.head _)).sorted
    rw [List.cons_append, firstSatisfiable, htry]
    simp only [hw]
    exact ih fun r hr => hn r (.tail _ hr)

theorem firstSatisfiable_of_skipped (h : Skipped k skipped t s) (hn : ∀ r ∈ skipped, r.IsNamed) :
    firstSatisfiable k skipped t = (.ok none, s) := by
  have := firstSatisfiable_append h hn []
  rwa [List.append_nil] at this

theorem firstSatisfiable_of_error {fault : Fault} (h : k.tryRequirement r t = (.error fault, s)) :
    firstSatisfiable k (r :: rest) t = (.error fault, s) := by
  rw [firstSatisfiable, h]

theorem firstSatisfiable_of_satisfied {c : Credential}
    (h : k.tryRequirement r t = (.ok (.satisfied c), s)) (hn : r.IsNamed) :
    firstSatisfiable k (r :: rest) t = (.ok (some c), s) := by
  obtain ⟨ws, hw⟩ := hn.sorted
  rw [firstSatisfiable, h]
  simp only [hw]

end Authenticator

/-- All alternatives are skipped, or there is a first one that is not. -/
theorem skipped_or_first (k : Keyring τ) (alternatives : List Requirement) (t : τ) :
    (∃ s, Skipped k alternatives t s) ∨
      ∃ skipped r rest s u, alternatives = skipped ++ r :: rest ∧ Skipped k skipped t s ∧
        ((∃ fault, k.tryRequirement r s = (.error fault, u)) ∨
          ∃ c, k.tryRequirement r s = (.ok (.satisfied c), u)) := by
  induction alternatives generalizing t with
  | nil => exact .inl ⟨t, .nil⟩
  | cons r rest ih =>
    rcases htry : k.tryRequirement r t with ⟨fault | ⟨c⟩ | ⟨cause⟩, s⟩
    · exact .inr ⟨[], r, rest, t, s, rfl, .nil, .inl ⟨fault, htry⟩⟩
    · exact .inr ⟨[], r, rest, t, s, rfl, .nil, .inr ⟨c, htry⟩⟩
    · rcases ih s with ⟨u, hu⟩ | ⟨skipped, r', rest', u, v, rfl, hu, h⟩
      · exact .inl ⟨u, .cons htry hu⟩
      · exact .inr ⟨r :: skipped, r', rest', u, v, rfl, .cons htry hu, h⟩

/-! ### Decorating -/

/-- What comes of a request for which some credentials, or none, are chosen. -/
def outcomeOf (request : Request) :
    Except Fault (Option Credential × List Notice) × τ → Except Fault Unit × Request × τ
  | (.error fault, t) => (.error fault, request, t)
  | (.ok (none, _), t) => (.ok (), request, t)
  | (.ok (some c, _), t) => ((c.stamp request).1, (c.stamp request).2, t)

namespace Authenticator

variable {request : Request} {alternatives : List Requirement}
  {o : Except Fault Unit × Request × τ}

/-- When all alternatives are skipped the fallback is chosen. -/
theorem choose_of_skipped (h : Skipped k alternatives t s) (hn : ∀ r ∈ alternatives, r.IsNamed)
    (described : String) : choose k alternatives described t =
      fallbackFor k (!alternatives.isEmpty) described s := by
  rw [choose, firstSatisfiable_of_skipped h hn]

theorem outcomeOf_fallbackFor_of_none (h : k.config.authenticationType = .none) (required : Bool)
    (described : String) :
    outcomeOf request (fallbackFor k required described s) = (.ok (), request, s) := by
  rw [fallbackFor, if_pos h]
  rfl

theorem outcomeOf_fallbackFor (h : k.config.authenticationType ≠ .none) (required : Bool)
    (described : String) :
    outcomeOf request (fallbackFor k required described s) =
      match k.fallback s with
      | (.ok c, u) => ((c.stamp request).1, (c.stamp request).2, u)
      | (.error fault, u) =>
        (if fault.isUnsatisfiable then .ok () else .error fault, request, u) := by
  rw [fallbackFor, if_neg h, Keyring.tryFallback]
  rcases k.fallback s with ⟨fault | c, u⟩
  · by_cases hf : fault.isUnsatisfiable = true
    · simp [Outcome.ofResult, hf, outcomeOf]
    · simp [Outcome.ofResult, hf, outcomeOf]
  · rfl

/-- What is to happen is what the choice leads to. -/
theorem outcomeOf_choose (h : Decorates k request alternatives t o)
    (hn : ∀ r ∈ alternatives, r.IsNamed) (described : String) :
    outcomeOf request (choose k alternatives described t) = o := by
  cases h with
  | fault heq hs htry =>
    subst heq
    have hn' := List.forall_mem_append.mp hn
    rw [choose, firstSatisfiable_append hs hn'.1, firstSatisfiable_of_error htry]
    rfl
  | apply heq hs htry =>
    subst heq
    have hn' := List.forall_mem_append.mp hn
    rw [choose, firstSatisfiable_append hs hn'.1,
      firstSatisfiable_of_satisfied htry (hn'.2 _ (.head _)), Keyring.apply_of_satisfied htry]
    rfl
  | leave hs hnone => rw [choose_of_skipped hs hn, outcomeOf_fallbackFor_of_none hnone]
  | fallback hs hne hf => rw [choose_of_skipped hs hn, outcomeOf_fallbackFor hne, hf]
  | forgo hs hne hf hu =>
    rw [choose_of_skipped hs hn, outcomeOf_fallbackFor hne, hf]
    simp only [hu, if_true]
  | fallbackFault hs hne hf hu =>
    rw [choose_of_skipped hs hn, outcomeOf_fallbackFor hne, hf]
    simp [hu]

/-- Something is to happen in any case. -/
theorem exists_decorates (k : Keyring τ) (request : Request) (alternatives : List Requirement)
    (t : τ) : ∃ o, Decorates k request alternatives t o := by
  rcases skipped_or_first k alternatives t with ⟨s, hs⟩ | ⟨skipped, r, rest, s, u, heq, hs, h⟩
  · by_cases hnone : k.config.authenticationType = .none
    · exact ⟨_, .leave hs hnone⟩
    · rcases hf : k.fallback s with ⟨fault | c, u⟩
      · cases hu : fault.isUnsatisfiable with
        | true => exact ⟨_, .forgo hs hnone hf hu⟩
        | false => exact ⟨_, .fallbackFault hs hnone hf hu⟩
      · exact ⟨_, .fallback hs hnone hf⟩
  · rcases h with ⟨fault, htry⟩ | ⟨c, htry⟩
    · exact ⟨_, .fault heq hs htry⟩
    · exact ⟨_, .apply heq hs htry⟩

theorem outcome_decorate {a : Authenticator} {bearer : Bearer τ} {p m : String}
    {method : Option String} (hmethod : (method.filter (!·.isEmpty) <|> request.method) = some m)
    (hres : a.security.table.resolve (some p) (some m) = .ok alternatives) (t : τ) :
    (a.decorate bearer request (some p) method t).outcome =
      outcomeOf request (choose (a.keyring bearer) alternatives (m ++ " " ++ p) t) := by
  unfold decorate
  simp only [hmethod, hres, Option.getD_some]
  rcases choose (a.keyring bearer) alternatives (m ++ " " ++ p) t with
    ⟨fault | ⟨_ | c, notices⟩, s⟩
  · rfl
  · rfl
  · rcases hc : c.stamp request with ⟨fault | _, stamped⟩ <;>
      simp [outcomeOf, Decoration.outcome, hc, Except.map]

/-- **The first alternative that can be satisfied wins.** For a path and a method with characters
the alternatives of the operation are resolved, and what comes of the request is what is to happen
with them, and nothing else. -/
theorem first_satisfiable_wins {a : Authenticator} {bearer : Bearer τ} {p m : String}
    {method : Option String} (hp : p ≠ "") (hm : m ≠ "")
    (hmethod : (method.filter (!·.isEmpty) <|> request.method) = some m)
    (hnames : ∀ r ∈ (a.security.table.get? p m).getD a.security.table.default, r.IsNamed) (t : τ) :
    ∃ alternatives, a.security.table.resolve (some p) (some m) = .ok alternatives ∧
      ∀ o, Decorates (a.keyring bearer) request alternatives t o ↔
        (a.decorate bearer request (some p) method t).outcome = o := by
  have hres := Table.resolve_of_ne (t := a.security.table) hp hm
  refine ⟨_, hres, fun o => ?_⟩
  rw [outcome_decorate hmethod hres]
  constructor
  · intro h
    exact outcomeOf_choose h hnames _
  · rintro rfl
    obtain ⟨o, h⟩ := exists_decorates (a.keyring bearer) request
      ((a.security.table.get? p m).getD a.security.table.default) t
    rw [outcomeOf_choose h hnames]
    exact h

/-! ### The choice -/

variable {a : Authenticator} {bearer : Bearer τ} {path method : Option String} {c : Credential}

/-- The credentials that are chosen for a request with a path and a method. -/
def Chooses (a : Authenticator) (bearer : Bearer τ) (request : Request)
    (path method : Option String) (t : τ) (c : Credential) : Prop :=
  let method := method.filter (!·.isEmpty) <|> request.method
  ∃ alternatives notices u, a.security.table.resolve path method = .ok alternatives ∧
    choose (a.keyring bearer) alternatives (method.getD "" ++ " " ++ path.getD "") t =
      (.ok (some c, notices), u)

/-- The chosen credentials are stamped. -/
theorem decorate_of_chooses (h : a.Chooses bearer request path method t c) :
    (a.decorate bearer request path method t).result.map (fun _ => ()) = (c.stamp request).1 ∧
      (a.decorate bearer request path method t).request = (c.stamp request).2 := by
  obtain ⟨alternatives, notices, u, hresolve, hchoose⟩ := h
  unfold decorate
  simp only [hresolve, hchoose, and_true]
  rcases c.stamp request with ⟨fault | _, stamped⟩
  · rfl
  · rfl

/-- A decoration leaves the request as it is, or stamps the chosen credentials. -/
theorem decorate_cases (a : Authenticator) (bearer : Bearer τ) (request : Request)
    (path method : Option String) (t : τ) :
    (a.decorate bearer request path method t).request = request ∨
      ∃ c, a.Chooses bearer request path method t c := by
  cases hresolve : a.security.table.resolve path
      (method.filter (!·.isEmpty) <|> request.method) with
  | error fault =>
    left
    unfold decorate
    simp only [hresolve]
  | ok alternatives =>
    rcases hchoose : choose (a.keyring bearer) alternatives
        ((method.filter (!·.isEmpty) <|> request.method).getD "" ++ " " ++ path.getD "") t with
      ⟨fault | ⟨_ | c, notices⟩, u⟩
    · left
      unfold decorate
      simp only [hresolve, hchoose]
    · left
      unfold decorate
      simp only [hresolve, hchoose]
    · exact .inr ⟨c, alternatives, notices, u, hresolve, hchoose⟩

/-- The first alternative that can be satisfied is chosen. -/
theorem chooses_of_satisfied
    (hresolve : a.security.table.resolve path (method.filter (!·.isEmpty) <|> request.method) =
      .ok (skipped ++ r :: rest))
    (hn : ∀ r' ∈ skipped ++ [r], r'.IsNamed) (hs : Skipped (a.keyring bearer) skipped t s)
    (htry : (a.keyring bearer).tryRequirement r s = (.ok (.satisfied c), u)) :
    a.Chooses bearer request path method t c := by
  obtain ⟨hskipped, hr⟩ := List.forall_mem_append.mp hn
  refine ⟨_, [], u, hresolve, ?_⟩
  rw [choose, firstSatisfiable_append hs hskipped,
    firstSatisfiable_of_satisfied htry (hr r (.head _))]

/-! ### A skipped alternative -/

/-- Tokens that are counted. -/
def countedBearer : Bearer Nat := fun n => (.ok (.text "T"), n + 1)

/-- An operation that asks for a token with an unknown scheme, or else for a key in a header. -/
def tokenOrKey : Authenticator where
  config := ⟨none, .none, none, none, none, none, none, some "K", [], none, none, none, none, .null,
    .int 0⟩
  security := {
    schemes := [(.text "token", ⟨.text "token", .null, .oauth2 []⟩),
      (.text "key", ⟨.text "key", .null, .apiKey (.text "header") (.text "X-Key")⟩)]
    table := ⟨[(⟨"/pets", "GET"⟩,
      [[(.text "token", []), (.text "other", [])], [(.text "key", [])]])], []⟩ }
  basePath := []

/-- A request without headers. -/
def plainRequest : Request := ⟨"http://h/pets", some "GET", [], 0⟩

/-- The key is stamped and the token is not, although it was fetched. -/
theorem key_stamped_after_token :
    (tokenOrKey.decorate countedBearer plainRequest (some "/pets") none 0).outcome =
      (.ok (), { plainRequest with headers := [("X-Key", "K")] }, 1) := by
  have hnames : ∀ r ∈ (tokenOrKey.security.table.get? "/pets" "GET").getD
      tokenOrKey.security.table.default, r.IsNamed := by
    have htable : (tokenOrKey.security.table.get? "/pets" "GET").getD
        tokenOrKey.security.table.default =
          [[(.text "token", []), (.text "other", [])], [(.text "key", [])]] := rfl
    rw [htable]
    simp [Requirement.IsNamed, or_imp, forall_and]
  have hmethod : ((none : Option String).filter (!·.isEmpty) <|> plainRequest.method) =
      some "GET" := rfl
  obtain ⟨alternatives, hres, h⟩ :=
    first_satisfiable_wins (by decide) (by decide) hmethod hnames 0
  cases hres
  have hskipped : Skipped (tokenOrKey.keyring countedBearer)
      [[(.text "token", []), (.text "other", [])]] 0 1 := .cons rfl .nil
  exact (h _).mp (.apply rfl hskipped rfl)

end Authenticator

end RequestAuth
