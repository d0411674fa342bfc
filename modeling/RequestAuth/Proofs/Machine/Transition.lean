import RequestAuth.Token.Machine
import RequestAuth.Proofs.Cache
import RequestAuth.Proofs.Entries
import Mathlib.Data.List.Induction

/-!
# What a step of the machine does

`CallStep` lists what the steps of a call do to the call and to the cache, one case for each
outcome, and `Transition` adds the steps that belong to no call. A step does one of these things
(`transition_step`), and invariants of runs are proved from that, case by case: no proof after it
opens `Machine.step`. What becomes of the calls, the token and the generation is read off once for
all (`call?_transition`, `token_transition`, `generation_transition`).

`Made` speaks about the steps of a run: that a step is made, and at which machine.
-/

namespace RequestAuth

/-- Whether a step begins a call of a number. -/
def Event.begins (n : Nat) : Event → Bool
  | .look k _ => k == n
  | _ => false

/-- Whether a step drops the token. -/
def Event.drops : Event → Bool
  | .invalidate => true
  | .observe status => status == .int unauthorized
  | _ => false

namespace Machine

/-! ### The calls -/

@[simp] theorem call?_put_self (m : Machine) (n : Nat) (p : Purpose) (ph : Phase) :
    (m.put n p ph).call? n = some ⟨p, ph⟩ := lookup_putEntry_self (.of_lawful n) _ m.calls

theorem call?_put_of_ne {n x : Nat} (h : x ≠ n) (m : Machine) (p : Purpose) (ph : Phase) :
    (m.put n p ph).call? x = m.call? x := lookup_putEntry_of_ne (.of_lawful x) h _ m.calls

theorem result?_eq_some {m : Machine} {n : Nat} {r : Except Fault CachedToken} :
    m.result? n = some r ↔
      ∃ p, m.call? n = some ⟨p, .ended r⟩ ∨ m.call? n = some ⟨p, .settled r⟩ := by
  unfold result?
  split
  · rename_i p r' h
    simp [h]
  · rename_i p r' h
    simp [h]
  · rename_i he hs
    refine ⟨nofun, ?_⟩
    rintro ⟨p, h | h⟩
    · exact absurd h (he p r)
    · exact absurd h (hs p r)

/-! ### Steps -/

/-- Whether it is the turn of the call that a step belongs to. A new call needs a free number. -/
def isTurn (m : Machine) : Event → Bool
  | .look n _ => (m.call? n).isNone
  | .decide n => match m.call? n with
    | some ⟨_, .looked _⟩ => true
    | _ => false
  | .fetch n => match m.call? n with
    | some ⟨_, .wanting _⟩ => true
    | _ => false
  | .receive n _ => match m.call? n with
    | some ⟨_, .fetching _⟩ => true
    | _ => false
  | .store n => match m.call? n with
    | some ⟨_, .fetched _⟩ => true
    | _ => false
  | .settle n => match m.call? n with
    | some ⟨.renew, .ended _⟩ => true
    | _ => false
  | _ => true

/-- A step takes a call to a phase and leaves a cache. -/
inductive CallStep (m : Machine) : Event → Nat → Purpose → Phase → Cache → Prop where
  /-- A call that can use the kept token looks at the cache. -/
  | look {n : Nat} : m.call? n = none →
    CallStep m (.look n .use) n .use (.looked m.cache.snapshot) m.cache
  /-- A call that wants a fresh token looks at the cache. -/
  | lookFresh {n : Nat} {p : Purpose} : m.call? n = none → p.isFresh = true →
    CallStep m (.look n p) n p (.wanting m.cache.generation) m.cache
  /-- The token that a call saw is good, and the call ends with it. -/
  | reuse {n : Nat} {p : Purpose} {seen : Snapshot} {t : CachedToken} :
    m.call? n = some ⟨p, .looked seen⟩ → seen.token = some t → t.isExpired m.now = false →
      CallStep m (.decide n) n p (.ended (.ok t)) m.cache
  /-- A call saw no good token. -/
  | want {n : Nat} {p : Purpose} {seen : Snapshot} :
    m.call? n = some ⟨p, .looked seen⟩ → (∀ t, seen.token = some t → t.isExpired m.now = true) →
      CallStep m (.decide n) n p (.wanting seen.generation) m.cache
  /-- A call begins to fetch. -/
  | fetch {n : Nat} {p : Purpose} {g : Nat} : m.call? n = some ⟨p, .wanting g⟩ →
    CallStep m (.fetch n) n p (.fetching ⟨g, m.now⟩) m.cache
  /-- A fetch brings a token. -/
  | bring {n : Nat} {p : Purpose} {f : Fetch} {reply : Except Fault Token} {t : CachedToken} :
    m.call? n = some ⟨p, .fetching f⟩ → reply >>= f.receive = .ok t →
      CallStep m (.receive n reply) n p (.fetched t) m.cache
  /-- A fetch fails, and the call with it. -/
  | fail {n : Nat} {p : Purpose} {f : Fetch} {reply : Except Fault Token} {fault : Fault} :
    m.call? n = some ⟨p, .fetching f⟩ → reply >>= f.receive = .error fault →
      CallStep m (.receive n reply) n p (.ended (.error fault)) m.cache
  /-- A token of an earlier generation is given to its caller only. -/
  | discard {n : Nat} {p : Purpose} {t : CachedToken} :
    m.call? n = some ⟨p, .fetched t⟩ → t.generation ≠ m.cache.generation →
      CallStep m (.store n) n p (.ended (.ok t)) m.cache
  /-- A good token is kept already, and the caller gets that one. -/
  | defer {n : Nat} {p : Purpose} {t current : CachedToken} :
    m.call? n = some ⟨p, .fetched t⟩ → t.generation = m.cache.generation → p.isFresh = false →
      m.cache.token = some current → current.isExpired m.now = false →
      CallStep m (.store n) n p (.ended (.ok current)) m.cache
  /-- A token is kept. -/
  | keep {n : Nat} {p : Purpose} {t : CachedToken} :
    m.call? n = some ⟨p, .fetched t⟩ → t.generation = m.cache.generation →
      (p.isFresh = false → ∀ current, m.cache.token = some current →
        current.isExpired m.now = true) →
      CallStep m (.store n) n p (.ended (.ok t)) { m.cache with token := some t }
  /-- The end of a renewal is counted. -/
  | settle {n : Nat} {r : Except Fault CachedToken} : m.call? n = some ⟨.renew, .ended r⟩ →
    CallStep m (.settle n) n .renew (.settled r) (m.cache.settle r).1

/-- What a step makes of a machine. -/
inductive Transition (m : Machine) : Event → Machine → Prop where
  /-- It is not the turn of the call. -/
  | idle {e : Event} : m.isTurn e = false → Transition m e m
  /-- A call makes its step. -/
  | call {e : Event} {n : Nat} {p : Purpose} {ph : Phase} {c : Cache} : CallStep m e n p ph c →
    Transition m e ({ m with cache := c }.put n p ph)
  /-- The token is dropped. -/
  | invalidate : Transition m .invalidate { m with cache := m.cache.invalidate }
  /-- A status is observed. -/
  | observe (status : Value) :
    Transition m (.observe status) { m with cache := m.cache.observe status }
  /-- The clock is moved. -/
  | advance (seconds : Int) : Transition m (.advance seconds) { m with now := m.now.plus seconds }
  /-- Renewal is started. -/
  | startRenewal (interval : Value) :
    Transition m (.startRenewal interval) { m with cache := m.cache.startRenewal interval }
  /-- Renewal is cancelled. -/
  | cancelRenewal : Transition m .cancelRenewal { m with cache := m.cache.cancelRenewal }
  /-- The scheduler is stopped. -/
  | shutdown : Transition m .shutdown { m with cache := m.cache.shutdown }

theorem transition_look {m : Machine} {n : Nat} (h : m.call? n = none) (p : Purpose) :
    Transition m (.look n p) (m.looked n p) := by
  unfold looked
  cases hp : p.isFresh with
  | true => exact .call (.lookFresh h hp)
  | false =>
    obtain rfl : p = .use := by simpa [Purpose.isFresh] using hp
    exact .call (.look h)

theorem transition_looked {m : Machine} {n : Nat} {p : Purpose} {seen : Snapshot}
    (h : m.call? n = some ⟨p, .looked seen⟩) : Transition m (.decide n) (m.decided n p seen) := by
  unfold decided
  split
  · rename_i t ht
    obtain ⟨hs, he⟩ := Snapshot.usable?_eq_some.mp ht
    exact .call (.reuse h hs he)
  · rename_i hn
    exact .call (.want h (Snapshot.usable?_eq_none.mp hn))

theorem transition_fetching {m : Machine} {n : Nat} {p : Purpose} {f : Fetch}
    (h : m.call? n = some ⟨p, .fetching f⟩) (reply : Except Fault Token) :
    Transition m (.receive n reply) (m.received n p f reply) := by
  unfold received
  split
  · rename_i t ht
    exact .call (.bring h ht)
  · rename_i fault hf
    exact .call (.fail h hf)

theorem transition_fetched {m : Machine} {n : Nat} {p : Purpose} {t : CachedToken}
    (h : m.call? n = some ⟨p, .fetched t⟩) : Transition m (.store n) (m.stored n p t) := by
  unfold stored
  by_cases hg : t.generation = m.cache.generation
  · cases hc : m.cache.token with
    | none =>
      rw [Cache.store_of_none hg hc]
      exact .call (.keep h hg fun _ current hs => by simp [hc] at hs)
    | some current =>
      cases hb : !p.isFresh && !current.isExpired m.now with
      | true =>
        rw [Cache.store_of_good hg hc hb]
        simp only [Bool.and_eq_true, Bool.not_eq_true'] at hb
        exact .call (.defer h hg hb.1 hc hb.2)
      | false =>
        rw [Cache.store_of_replaced hg hc hb]
        refine .call (.keep h hg fun hp current' hs => ?_)
        rw [hc, Option.some.injEq] at hs
        simpa [hp, hs] using hb
  · rw [Cache.store_of_ne hg]
    exact .call (.discard h hg)

/-- A step does one of the things that `Transition` lists. -/
theorem transition_step (m : Machine) (e : Event) : Transition m e (m.step e).1 := by
  cases e with
  | look n p =>
    cases h : m.call? n with
    | none => simpa [step, h] using transition_look h p
    | some c => simpa [step, h] using Transition.idle (e := .look n p) (by simp [isTurn, h])
  | decide n =>
    simp only [step]
    split
    · rename_i h
      exact transition_looked h
    · exact .idle (by simp only [isTurn])
  | fetch n =>
    simp only [step]
    split
    · rename_i h
      exact .call (.fetch h)
    · exact .idle (by simp only [isTurn])
  | receive n reply =>
    simp only [step]
    split
    · rename_i h
      exact transition_fetching h reply
    · exact .idle (by simp only [isTurn])
  | store n =>
    simp only [step]
    split
    · rename_i h
      exact transition_fetched h
    · exact .idle (by simp only [isTurn])
  | settle n =>
    simp only [step]
    split
    · rename_i h
      exact .call (.settle h)
    · exact .idle (by simp only [isTurn])
  | invalidate => exact .invalidate
  | observe status => exact .observe status
  | advance seconds => exact .advance seconds
  | startRenewal interval => exact .startRenewal interval
  | cancelRenewal => exact .cancelRenewal
  | shutdown => exact .shutdown

/-! ### What a step changes -/

/-- The phase of a call is what it was, or the step is one of the call. -/
theorem call?_transition {m m' : Machine} {e : Event} (ht : Transition m e m') {n : Nat}
    {p : Purpose} {ph : Phase} (h : m'.call? n = some ⟨p, ph⟩) :
    m.call? n = some ⟨p, ph⟩ ∨ ∃ c, CallStep m e n p ph c := by
  cases ht with
  | @call e k q ph' c hk =>
    by_cases hn : n = k
    · subst hn
      rw [call?_put_self] at h
      cases h
      exact .inr ⟨c, hk⟩
    · rw [call?_put_of_ne hn] at h
      exact .inl h
  | _ => exact .inl h

/-- A number is taken if it was, or if the step begins a call of it. -/
theorem isSome_call?_transition {m m' : Machine} {e : Event} (ht : Transition m e m') (n : Nat) :
    (m'.call? n).isSome = ((m.call? n).isSome || e.begins n) := by
  cases ht with
  | idle hi =>
    cases e with
    | look k p =>
      by_cases hk : k = n
      · subst hk
        rw [isTurn, Option.isNone_eq_false_iff] at hi
        simp [hi]
      · simp [Event.begins, hk]
    | _ => simp [Event.begins]
  | @call e k q ph c hk =>
    by_cases hn : n = k
    · subst hn
      cases hk <;> simp_all [Event.begins]
    · rw [call?_put_of_ne hn]
      cases hk <;> simp [Event.begins, call?, Ne.symm hn]
  | _ => simp [Event.begins, call?]

/-- A token that is kept after a step was kept before, or the step is that of a call which fetched
it in the current generation. -/
theorem token_transition {m m' : Machine} {e : Event} (ht : Transition m e m') {t : CachedToken}
    (h : m'.cache.token = some t) :
    m.cache.token = some t ∧ e.drops = false ∨
      ∃ n p, e = .store n ∧ m.call? n = some ⟨p, .fetched t⟩ ∧
        t.generation = m.cache.generation := by
  cases ht with
  | idle hi => exact .inl ⟨h, by cases e <;> first | rfl | cases hi⟩
  | @call e n p ph c hn =>
    cases hn with
    | @keep n p t' hn hg hk =>
      cases h
      exact .inr ⟨n, p, rfl, hn, hg⟩
    | settle => exact .inl ⟨(Cache.token_settle _ _).symm.trans h, rfl⟩
    | _ => exact .inl ⟨h, rfl⟩
  | invalidate => cases h
  | observe status =>
    cases hs : status == .int unauthorized with
    | true => simp [Cache.observe_of_eq hs] at h
    | false => exact .inl ⟨by rwa [Cache.observe_of_ne hs] at h, hs⟩
  | shutdown => exact .inl ⟨(Cache.token_shutdown _).symm.trans h, rfl⟩
  | _ => exact .inl ⟨h, rfl⟩

/-- The generation counts the drops. -/
theorem generation_transition {m m' : Machine} {e : Event} (ht : Transition m e m') :
    m'.cache.generation = m.cache.generation + e.drops.toNat := by
  cases ht with
  | idle hi => cases e <;> first | rfl | cases hi
  | @call e n p ph c hn =>
    cases hn with
    | settle => exact Cache.generation_settle _ _
    | _ => rfl
  | observe status =>
    cases hs : status == .int unauthorized with
    | true => simp [Cache.observe_of_eq hs, Event.drops, hs]
    | false => simp [Cache.observe_of_ne hs, Event.drops, hs]
  | shutdown => exact Cache.generation_shutdown _
  | _ => rfl

/-! ### Runs -/

@[simp] theorem run_nil (m : Machine) : m.run [] = m := rfl

@[simp] theorem run_cons (m : Machine) (e : Event) (es : List Event) :
    m.run (e :: es) = (m.step e).1.run es := rfl

theorem run_append (m : Machine) (es fs : List Event) : m.run (es ++ fs) = (m.run es).run fs :=
  List.foldl_append

/-- What holds before the first step and is kept by every step holds after every run. `P` also
speaks about the steps made so far. -/
theorem run_induction {m : Machine} {P : List Event → Machine → Prop} (start : P [] m)
    (step : ∀ es e m', P es (m.run es) → Transition (m.run es) e m' → P (es ++ [e]) m')
    (es : List Event) : P es (m.run es) := by
  induction es using List.reverseRecOn with
  | nil => exact start
  | append_singleton es e ih =>
    rw [run_append]
    exact step es e _ ih (transition_step _ e)

/-- In a run from `m₀` the step `e` is made at `m`. -/
def Made (m₀ : Machine) (es : List Event) (m : Machine) (e : Event) : Prop :=
  ∃ before after, es = before ++ e :: after ∧ m = m₀.run before

theorem Made.append {m₀ m : Machine} {es : List Event} {e : Event} (h : Made m₀ es m e)
    (later : List Event) : Made m₀ (es ++ later) m e := by
  obtain ⟨before, after, rfl, rfl⟩ := h
  exact ⟨before, after ++ later, by simp, rfl⟩

theorem Made.prepend {m₀ m : Machine} (before : List Event) {es : List Event} {e : Event}
    (h : Made (m₀.run before) es m e) : Made m₀ (before ++ es) m e := by
  obtain ⟨first, after, rfl, rfl⟩ := h
  exact ⟨before ++ first, after, by simp, (run_append ..).symm⟩

theorem made_cons {m₀ m : Machine} {e e' : Event} {es : List Event}
    (h : Made m₀ (e' :: es) m e) : m = m₀ ∧ e = e' ∨ Made (m₀.step e').1 es m e := by
  obtain ⟨before, after, heq, rfl⟩ := h
  cases before with
  | nil =>
    cases heq
    exact .inl ⟨rfl, rfl⟩
  | cons b before =>
    cases heq
    exact .inr ⟨before, after, rfl, rfl⟩

theorem made_append {m₀ m : Machine} {es fs : List Event} {e : Event}
    (h : Made m₀ (es ++ fs) m e) : Made m₀ es m e ∨ Made (m₀.run es) fs m e := by
  obtain ⟨before, after, heq, rfl⟩ := h
  rcases List.append_eq_append_iff.mp heq with ⟨as, rfl, hfs⟩ | ⟨bs, rfl, hafter⟩
  · exact .inr ⟨as, after, hfs, run_append ..⟩
  · cases bs with
    | nil => exact .inr ⟨[], after, by simpa using hafter.symm, by simp⟩
    | cons b bs =>
      obtain ⟨rfl, rfl⟩ := List.cons.inj hafter
      exact .inl ⟨before, bs, rfl, rfl⟩

theorem made_concat (m₀ : Machine) (es : List Event) (e : Event) :
    Made m₀ (es ++ [e]) (m₀.run es) e := ⟨es, [], by simp, rfl⟩

end Machine

end RequestAuth
