import RequestAuth.Proofs.Answer
import RequestAuth.Proofs.Trace

/-!
# One fetch for each time of validity

A cache that is used by one caller at a time (`Session`): between the calls the token is dropped and
the clock is moved, forwards or backwards, and the fetches end as they please. A call fetches when it
finds no token or one whose expiry has come (`Session.lacks`), and a token that a fetch brought is
what all calls get until it is dropped or its lifetime is over (`Session.Serves`).

What carries the count is that every fetch that brings a token is paid for: by the emptiness of the
cache, which only a drop brings back, or by a token that was found expired (`cost_step`). A lifetime
that leads out of the calendar is the exception, since the call ends in a fault and nothing is kept.
-/

namespace RequestAuth

/-! ### Tokens and the clock -/

namespace Token

/-- Whether a token that is fetched at an instant has an expiry in the calendar, or none at all. -/
def isDated (token : Token) (started : Instant) : Bool :=
  token.lifetime.all fun n => started.isRepresentable && (started.plus n).isRepresentable

/-- Whether the lifetime of a token that was fetched at an instant is not over. -/
def isGood (token : Token) (started now : Instant) : Bool :=
  token.lifetime.all fun n => now.seconds < started.seconds + n

end Token

/-- A token with an expiry in the calendar is received. -/
theorem receive_of_isDated {f : Fetch} {token : Token} (h : token.isDated f.started = true) :
    f.receive token =
      .ok ⟨token.access, token.type, token.lifetime.map f.started.plus, f.generation⟩ := by
  unfold Token.isDated at h
  unfold Fetch.receive
  cases hl : token.lifetime with
  | none => rfl
  | some n =>
    rw [hl, Option.all_some, Bool.and_eq_true] at h
    simp only [expiry_eq_ok h.1 h.2, Except.map]
    rfl

theorem isExpired_eq_not_isGood {t : CachedToken} {token : Token} {started : Instant}
    (h : t.expiresAt = token.lifetime.map started.plus) (now : Instant) :
    t.isExpired now = !token.isGood started now := by
  unfold CachedToken.isExpired Token.isGood
  rw [h]
  cases token.lifetime with
  | none => rfl
  | some n =>
    change decide (started.seconds + n ≤ now.seconds) = !decide (now.seconds < started.seconds + n)
    rw [Bool.eq_iff_iff]
    simp

/-! ### One caller at a time -/

/-- What happens to a cache that is used by one caller at a time. -/
inductive Act where
  /-- A token is obtained. -/
  | use
  /-- The token is dropped. -/
  | invalidate
  /-- The clock is moved. -/
  | advance (seconds : Int)
  deriving DecidableEq

/-- A cache, its clock, and the number of fetches that were made. -/
structure Session where
  /-- The cache. -/
  cache : Cache
  /-- The clock. -/
  now : Instant
  /-- The number of fetches. -/
  fetches : Nat

namespace Session

/-- The session before anything happens. -/
def start (now : Instant) : Session := ⟨.empty, now, 0⟩

/-- A token is kept whose expiry is at the clock or before. -/
def findsExpired (s : Session) : Bool :=
  s.cache.token.any fun t => t.expiresAt.any fun e => e.seconds ≤ s.now.seconds

/-- No token is kept, or its expiry is at the clock or before. -/
def lacks (s : Session) : Bool := s.cache.token.isNone || s.findsExpired

/-- A source of which the fetches end, one after the other, as `outcomes` says. -/
def source (outcomes : Nat → Except Fault Token) : TokenSource Nat := fun n => (outcomes n, n + 1)

variable (outcomes : Nat → Except Fault Token)

/-- What a call obtains, and what it leaves. -/
def use (s : Session) : Except Fault CachedToken × Session :=
  let (result, cache, fetches) := s.cache.obtain (source outcomes) false s.now s.fetches
  (result, { s with cache, fetches })

/-- The session after one thing has happened. -/
def step (s : Session) : Act → Session
  | .use => (s.use outcomes).2
  | .invalidate => { s with cache := s.cache.invalidate }
  | .advance n => { s with now := s.now.plus n }

/-- The session after some things have happened. -/
def run (s : Session) (acts : List Act) : Session := acts.foldl (step outcomes) s

/-- From here on every call gets a token without a fetch, as long as nobody drops the token and
all calls are made while the clock is `good`. -/
def Serves (s : Session) (t : CachedToken) (good : Instant → Bool) : Prop :=
  ∀ later, (∀ x ∈ trace (step outcomes) s later,
      x.2 ≠ .invalidate ∧ (x.2 = .use → good x.1.now = true)) →
    ∀ x ∈ trace (step outcomes) s later, x.2 = .use → x.1.use outcomes = (.ok t, x.1)

/-- Whether a call makes a fetch that succeeds. -/
def succeeds (x : Session × Act) : Bool :=
  x.2 = .use && x.1.lacks && (outcomes x.1.fetches).isOk

/-- Whether a call makes a fetch that succeeds with an expiry in the calendar, or with none. -/
def brings (x : Session × Act) : Bool :=
  x.2 = .use && x.1.lacks && match outcomes x.1.fetches with
    | .ok token => token.isDated x.1.now
    | .error _ => false

/-- Whether a call finds a token that has expired. -/
def isLate (x : Session × Act) : Bool := x.2 = .use && x.1.findsExpired

variable {outcomes} {s : Session} {t : CachedToken} {token : Token}

/-! ### What a call does -/

theorem usable?_eq_none_iff : s.cache.snapshot.usable? s.now = none ↔ s.lacks = true := by
  rw [Snapshot.usable?_eq_none]
  unfold lacks findsExpired Cache.snapshot
  cases s.cache.token with
  | none => simp
  | some t =>
    cases he : t.expiresAt with
    | none => simp [CachedToken.isExpired, he]
    | some e => simp [CachedToken.isExpired, he]

/-- A call that finds a good token gets that one and leaves all as it is. -/
theorem use_of_good (hc : s.cache.token = some t) (h : t.isExpired s.now = false) :
    s.use outcomes = (.ok t, s) := by
  unfold use
  rw [Cache.obtain_of_usable (Snapshot.usable?_eq_some.mpr ⟨hc, h⟩)]

theorem use_of_not_lacks (outcomes : Nat → Except Fault Token) (h : s.lacks = false) :
    ∃ t, s.use outcomes = (.ok t, s) := by
  cases hu : s.cache.snapshot.usable? s.now with
  | none => exact absurd (usable?_eq_none_iff.mp hu) (by simp [h])
  | some t =>
    obtain ⟨hc, he⟩ := Snapshot.usable?_eq_some.mp hu
    exact ⟨t, use_of_good hc he⟩

/-- A call whose fetch brings nothing that can be kept ends in the fault. -/
theorem use_of_fault {fault : Fault} (h : s.lacks = true)
    (hr : outcomes s.fetches >>= (Fetch.mk s.cache.generation s.now).receive = .error fault) :
    s.use outcomes = (.error fault, { s with fetches := s.fetches + 1 }) := by
  have hs : source outcomes s.fetches = (outcomes s.fetches, s.fetches + 1) := rfl
  unfold use
  rw [Cache.obtain_of_fault (usable?_eq_none_iff.mpr h) hs hr]

/-- A call whose fetch brings a token keeps it and gets it. -/
theorem use_of_fetched (h : s.lacks = true)
    (hr : outcomes s.fetches >>= (Fetch.mk s.cache.generation s.now).receive = .ok t) :
    s.use outcomes =
      (.ok t, { s with cache := { s.cache with token := some t }, fetches := s.fetches + 1 }) := by
  have hs : source outcomes s.fetches = (outcomes s.fetches, s.fetches + 1) := rfl
  unfold use
  rw [Cache.obtain_of_fetched (usable?_eq_none_iff.mpr h) hs hr]

theorem fetches_use_of_lacks (h : s.lacks = true) :
    (s.use outcomes).2.fetches = s.fetches + 1 := by
  cases hr : outcomes s.fetches >>= (Fetch.mk s.cache.generation s.now).receive with
  | error fault => rw [use_of_fault h hr]
  | ok t => rw [use_of_fetched h hr]

theorem fetches_use_of_not_lacks (h : s.lacks = false) :
    (s.use outcomes).2.fetches = s.fetches := by
  obtain ⟨t, ht⟩ := use_of_not_lacks outcomes h
  rw [ht]

/-- A token with an expiry in the calendar is kept by the call that fetches it. -/
theorem use_of_isDated (h : s.lacks = true) (ho : outcomes s.fetches = .ok token)
    (hd : token.isDated s.now = true) :
    ∃ t, t.access = token.access ∧ t.expiresAt = token.lifetime.map s.now.plus ∧
      s.use outcomes =
        (.ok t, { s with cache := { s.cache with token := some t }, fetches := s.fetches + 1 }) :=
  ⟨_, rfl, rfl, use_of_fetched h
    (bind_eq_ok.mpr ⟨token, ho, receive_of_isDated (f := ⟨s.cache.generation, s.now⟩) hd⟩)⟩

/-! ### How long a token serves -/

/-- A token that is kept serves while it is good. -/
theorem serves_of_token {good : Instant → Bool} (hc : s.cache.token = some t)
    (hgood : ∀ now, good now = true → t.isExpired now = false) : Serves outcomes s t good := by
  intro later hlater
  have hkept : ∀ x ∈ trace (step outcomes) s later, x.1.cache.token = some t := by
    refine forall_mem_trace (P := fun s : Session => s.cache.token = some t) hc fun x hx hkeep => ?_
    obtain ⟨hdrop, huse⟩ := hlater x hx
    obtain ⟨s', a⟩ := x
    cases a with
    | use => rwa [step, use_of_good hkeep (hgood _ (huse rfl))]
    | invalidate => exact absurd rfl hdrop
    | advance n => exact hkeep
  intro x hx hu
  exact use_of_good (hkept x hx) (hgood _ ((hlater x hx).2 hu))

/-! ### How many fetches bring a token -/

/-- A fetch that brings a token does not end in a fault. -/
theorem brings_eq_false {fault : Fault}
    (hr : outcomes s.fetches >>= (Fetch.mk s.cache.generation s.now).receive = .error fault) :
    brings outcomes (s, .use) = false := by
  rw [Bool.eq_false_iff]
  intro hb
  unfold brings at hb
  cases ho : outcomes s.fetches with
  | error fault => simp [ho] at hb
  | ok token =>
    simp only [ho, Bool.and_eq_true] at hb
    rw [ho] at hr
    have := (receive_of_isDated (f := ⟨s.cache.generation, s.now⟩) hb.2).symm.trans hr
    cases this

/-- Each fetch that brings a token is paid for by the emptiness of the cache or by a token that was
found expired, and only a drop makes the cache empty. -/
theorem cost_step (outcomes : Nat → Except Fault Token) (s : Session) (a : Act) :
    (brings outcomes (s, a)).toNat + (step outcomes s a).cache.token.isNone.toNat ≤
      s.cache.token.isNone.toNat + (a == .invalidate).toNat + (isLate (s, a)).toNat := by
  cases a with
  | use =>
    cases h : s.lacks with
    | false =>
      obtain ⟨t, ht⟩ := use_of_not_lacks outcomes h
      have hb : brings outcomes (s, .use) = false := by simp [brings, h]
      rw [hb, step, ht, Bool.toNat_false]
      dsimp only
      omega
    | true =>
      have hpaid : 1 ≤ s.cache.token.isNone.toNat + (isLate (s, .use)).toNat := by
        unfold lacks at h
        cases hn : s.cache.token.isNone <;> simp_all [isLate]
      cases hr : outcomes s.fetches >>= (Fetch.mk s.cache.generation s.now).receive with
      | error fault =>
        rw [brings_eq_false hr, step, use_of_fault h hr, Bool.toNat_false]
        dsimp only
        omega
      | ok t =>
        have hb := Bool.toNat_le (brings outcomes (s, .use))
        rw [step, use_of_fetched h hr, Option.isNone_some, Bool.toNat_false]
        omega
  | invalidate =>
    have hb : brings outcomes (s, .invalidate) = false := rfl
    have hd : (Act.invalidate == .invalidate) = true := rfl
    have hn := Bool.toNat_le (step outcomes s .invalidate).cache.token.isNone
    rw [hb, hd, Bool.toNat_false, Bool.toNat_true]
    omega
  | advance n =>
    have hb : brings outcomes (s, .advance n) = false := rfl
    rw [hb, step, Bool.toNat_false]
    dsimp only
    omega

/-- What `cost_step` says of a step holds of a run. -/
theorem cost_run (outcomes : Nat → Except Fault Token) (s : Session) (acts : List Act) :
    (trace (step outcomes) s acts).countP (brings outcomes) +
        (s.run outcomes acts).cache.token.isNone.toNat ≤
      s.cache.token.isNone.toNat + acts.count .invalidate +
        (trace (step outcomes) s acts).countP isLate := by
  induction acts generalizing s with
  | nil => simp [run]
  | cons a acts ih =>
    have hstep := cost_step outcomes s a
    have hrun := ih (step outcomes s a)
    have hfold : s.run outcomes (a :: acts) = (step outcomes s a).run outcomes acts := rfl
    rw [List.count_eq_countP] at hrun ⊢
    rw [hfold, trace_cons, countP_cons_eq, countP_cons_eq, countP_cons_eq]
    omega

/-! ### Runs from the empty cache -/

/-- **One fetch for each time of validity.** In a run from the empty cache a call makes one fetch if
it finds no token or an expired one, and none otherwise; a token that a fetch brought, with an expiry
in the calendar or with none, serves all calls until it is dropped or its lifetime is over; so the
fetches that bring such tokens are no more than the drops, the calls that found an expired token,
and one. -/
theorem one_fetch_per_window (outcomes : Nat → Except Fault Token) (now : Instant)
    (acts : List Act) :
    (∀ x ∈ trace (step outcomes) (start now) acts, x.2 = .use →
      (x.1.use outcomes).2.fetches = x.1.fetches + x.1.lacks.toNat ∧
        ∀ token, x.1.lacks = true → outcomes x.1.fetches = .ok token →
          token.isDated x.1.now = true →
          ∃ t, t.access = token.access ∧ (x.1.use outcomes).1 = .ok t ∧
            Serves outcomes (x.1.use outcomes).2 t (token.isGood x.1.now)) ∧
      (trace (step outcomes) (start now) acts).countP (brings outcomes) ≤
        1 + acts.count .invalidate + (trace (step outcomes) (start now) acts).countP isLate := by
  refine ⟨fun x _ _ => ⟨?_, fun token hlacks ho hd => ?_⟩, ?_⟩
  · cases h : x.1.lacks with
    | false => exact fetches_use_of_not_lacks h
    | true => exact fetches_use_of_lacks h
  · obtain ⟨t, ha, he, huse⟩ := use_of_isDated hlacks ho hd
    refine ⟨t, ha, by rw [huse], ?_⟩
    rw [huse]
    refine serves_of_token rfl fun later hgood => ?_
    rw [isExpired_eq_not_isGood he, hgood, Bool.not_true]
  · have hcost := cost_run outcomes (start now) acts
    have hstart : (start now).cache.token.isNone.toNat = 1 := rfl
    omega

/-- Outcomes of fetches: a failure, and then tokens for a minute. -/
def lateGrants : Nat → Except Fault Token
  | 0 => .error (invalidAnswer "No answer" none)
  | _ => .ok ⟨.text "t", .text "Bearer", some 60, .null⟩

/-- The call after a failed one fetches a token, which serves for a minute. -/
theorem serves_after_failure :
    ∃ t, t.access = .text "t" ∧
      (((start ⟨1000⟩).run lateGrants [.use]).use lateGrants).1 = .ok t ∧
      Serves lateGrants (((start ⟨1000⟩).run lateGrants [.use]).use lateGrants).2 t
        fun now => now.seconds < 1060 :=
  ((one_fetch_per_window lateGrants ⟨1000⟩ [.use, .use]).1
    ((start ⟨1000⟩).run lateGrants [.use], .use) (.tail _ (.head _)) rfl).2
    ⟨.text "t", .text "Bearer", some 60, .null⟩ rfl rfl rfl

/-- Tokens whose lifetimes lead out of the calendar are fetched by every call, though no call finds
an expired token and nobody drops one. -/
theorem overlong_tokens_fetched_again :
    let outcomes : Nat → Except Fault Token :=
      fun _ => .ok ⟨.text "A", .text "Bearer", some 400000000000, .null⟩
    ¬ (trace (step outcomes) (start ⟨63871891200⟩) [.use, .use]).countP (succeeds outcomes) ≤
      1 + [Act.use, .use].count .invalidate +
        (trace (step outcomes) (start ⟨63871891200⟩) [.use, .use]).countP isLate := by
  decide

end Session

end RequestAuth
