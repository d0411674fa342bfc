import RequestAuth.Proofs.Machine.Transition

/-!
# Calls in a row

A call whose steps are made in a row, with no step of another call between them, does what
`Cache.obtain` does: it leaves the same cache and ends with the same result. If it was made for
renewal and its end is counted, it does what `Cache.renew` does.
-/

namespace RequestAuth.Machine

variable {m : Machine} {n : Nat} {p : Purpose}

/-- The steps with which a call fetches a token. -/
def fetchSteps (n : Nat) (reply : Except Fault Token) : List Event :=
  [.fetch n, .receive n reply, .store n]

/-- All steps of a call. -/
def callSteps (n : Nat) (p : Purpose) (reply : Except Fault Token) : List Event :=
  .look n p :: .decide n :: fetchSteps n reply

/-- A call that is over makes no more steps. -/
theorem run_fetchSteps_of_ended {r : Except Fault CachedToken}
    (h : m.call? n = some ⟨p, .ended r⟩) (reply : Except Fault Token) :
    m.run (fetchSteps n reply) = m := by
  simp [fetchSteps, step, h]

/-- What a call that wants a token does when its steps are made in a row. -/
theorem run_fetchSteps {σ : Type} (h : m.call? n = some ⟨p, .wanting m.cache.generation⟩)
    (source : TokenSource σ) (s : σ)
    (hno : (if p.isFresh then none else m.cache.snapshot.usable? m.now) = none) :
    (m.run (fetchSteps n (source s).1)).cache = (m.cache.obtain source p.isFresh m.now s).2.1 ∧
      (m.run (fetchSteps n (source s).1)).call? n =
        some ⟨p, .ended (m.cache.obtain source p.isFresh m.now s).1⟩ := by
  unfold Cache.obtain
  rw [hno]
  cases hr : (source s).1 >>= (Fetch.mk m.cache.generation m.now).receive with
  | error fault =>
    simp only [fetchSteps, run_cons, run_nil, step, h, call?_put_self, received, hr,
      Cache.snapshot]
    exact ⟨rfl, trivial⟩
  | ok t =>
    simp only [fetchSteps, run_cons, run_nil, step, h, call?_put_self, received, hr, stored,
      Cache.snapshot]
    exact ⟨rfl, rfl⟩

/-- What a call has decided when it has looked and no other call came between. -/
theorem step_look_decide (h : m.call? n = none) (p : Purpose) :
    ((m.step (.look n p)).1.step (.decide n)).1.cache = m.cache ∧
      ((m.step (.look n p)).1.step (.decide n)).1.now = m.now ∧
      ((m.step (.look n p)).1.step (.decide n)).1.call? n = some ⟨p,
        match if p.isFresh then none else m.cache.snapshot.usable? m.now with
        | some t => .ended (.ok t)
        | none => .wanting m.cache.generation⟩ := by
  have hlook : (m.step (.look n p)).1 = m.looked n p := by simp [step, h]
  rw [hlook, looked]
  cases hp : p.isFresh with
  | true =>
    simp only [if_true, step, call?_put_self]
    exact ⟨rfl, rfl, trivial⟩
  | false =>
    have hnow : (m.put n p (.looked m.cache.snapshot)).now = m.now := rfl
    cases hu : m.cache.snapshot.usable? m.now with
    | none =>
      simp only [Bool.false_eq_true, if_false, step, call?_put_self, decided, hnow, hu]
      exact ⟨rfl, rfl, rfl⟩
    | some t =>
      simp only [Bool.false_eq_true, if_false, step, call?_put_self, decided, hnow, hu]
      exact ⟨rfl, rfl, trivial⟩

/-- **The steps of a call in a row do what `Cache.obtain` does.** -/
theorem run_callSteps {σ : Type} (h : m.call? n = none) (source : TokenSource σ) (s : σ)
    (p : Purpose) :
    (m.run (callSteps n p (source s).1)).cache = (m.cache.obtain source p.isFresh m.now s).2.1 ∧
      (m.run (callSteps n p (source s).1)).call? n =
        some ⟨p, .ended (m.cache.obtain source p.isFresh m.now s).1⟩ := by
  obtain ⟨hcache, hnow, hcall⟩ := step_look_decide h p
  rw [callSteps, run_cons, run_cons]
  cases hu : if p.isFresh then none else m.cache.snapshot.usable? m.now with
  | none =>
    rw [hu, ← hcache] at hcall
    rw [← hcache, ← hnow] at hu ⊢
    exact run_fetchSteps hcall source s hu
  | some t =>
    rw [hu] at hcall
    rw [run_fetchSteps_of_ended hcall, hcache, hcall, Cache.obtain, hu]
    exact ⟨rfl, rfl⟩

/-- **A renewal whose steps are made in a row does what `Cache.renew` does.** -/
theorem run_renewSteps {σ : Type} (h : m.call? n = none) (source : TokenSource σ) (s : σ) :
    (m.run (callSteps n .renew (source s).1 ++ [.settle n])).cache =
      (m.cache.renew source m.now s).2.1 := by
  obtain ⟨hcache, hcall⟩ := run_callSteps h source s .renew
  rw [run_append, run_cons, run_nil]
  simp only [step, hcall, hcache]
  rfl

end RequestAuth.Machine
