import RequestAuth.Proofs.Machine.Transition
import RequestAuth.Proofs.Trace
import Mathlib.Data.List.DropRight

/-!
# Failures of renewals

What the scheduler of renewals remembers is changed by few steps: renewal is started or stopped, and
the end of a call made for renewal is counted (`Renewing`). Calls of other purposes do not count, and
a renewal may end after it was cancelled or started anew. In every run the failures are those that
were counted since renewal was started or succeeded, and renewal is active when the last step that
had a say in it started it.

A scheduler that does not run cannot be stopped. That stopping it ends renewal all the same rests on
the invariant that no renewal is active without a running scheduler (`Renewal.IsSound`).
-/

namespace RequestAuth

/-- Whether a step starts renewal. -/
def Event.starts : Event → Bool
  | .startRenewal _ => true
  | _ => false

/-- Whether a step stops renewal. -/
def Event.stops : Event → Bool
  | .cancelRenewal | .shutdown => true
  | _ => false

theorem maxFailures_pos : 0 < maxFailures := by decide

/-- Renewal is active with a scheduler that runs, and with few failures. -/
structure Renewal.IsSound (r : Renewal) : Prop where
  /-- The scheduler runs. -/
  running : r.interval.isSome = true → r.isRunning = true
  /-- The failures are few. -/
  few : r.interval.isSome = true → r.failures < maxFailures

namespace Machine

/-- How the renewal ended that a step counts, if it counts one. -/
def counted? (m : Machine) : Event → Option (Except Fault CachedToken)
  | .settle n => match m.call? n with
    | some ⟨.renew, .ended r⟩ => some r
    | _ => none
  | _ => none

/-- Whether a step belongs to a call that is not made for renewal. -/
def isOther (m : Machine) : Event → Bool
  | .look _ p => p ≠ .renew
  | .decide n | .fetch n | .receive n _ | .store n | .settle n =>
    (m.call? n).all fun c => c.purpose ≠ .renew
  | _ => false

/-! ### Steps that matter -/

/-- Whether a step counts a renewal that failed. -/
def fails (x : Machine × Event) : Bool := (x.1.counted? x.2).any fun r => !r.isOk

/-- Whether a step starts renewal or counts one that succeeded. -/
def resets (x : Machine × Event) : Bool := x.2.starts || (x.1.counted? x.2).any (·.isOk)

/-- Whether a step counts a renewal that failed and brings the failures to too many. -/
def givesUp (x : Machine × Event) : Bool :=
  fails x && maxFailures ≤ (x.1.step x.2).1.cache.renewal.failures

/-- Whether a step has a say in whether renewal is active. -/
def decides (x : Machine × Event) : Bool := x.2.starts || x.2.stops || givesUp x

/-- What a step makes of the renewal. -/
inductive Renewing (m : Machine) : Event → Renewal → Prop where
  /-- Renewal is started. -/
  | start (interval : Value) : Renewing m (.startRenewal interval) ⟨true, some interval, 0⟩
  /-- Renewal is cancelled. -/
  | cancel : Renewing m .cancelRenewal { m.cache.renewal with interval := none }
  /-- The scheduler is stopped. -/
  | shutdown : m.cache.renewal.isRunning = true →
    Renewing m .shutdown ⟨false, none, m.cache.renewal.failures⟩
  /-- The scheduler does not run. -/
  | stopped : m.cache.renewal.isRunning = false → Renewing m .shutdown m.cache.renewal
  /-- A renewal succeeded. -/
  | succeed {e : Event} {t : CachedToken} : m.counted? e = some (.ok t) →
    Renewing m e { m.cache.renewal with failures := 0 }
  /-- A renewal failed. -/
  | fail {e : Event} {fault : Fault} : m.counted? e = some (.error fault) →
    m.cache.renewal.failures + 1 < maxFailures →
    Renewing m e { m.cache.renewal with failures := m.cache.renewal.failures + 1 }
  /-- A renewal failed, and there are too many failures. -/
  | giveUp {e : Event} {fault : Fault} : m.counted? e = some (.error fault) →
    maxFailures ≤ m.cache.renewal.failures + 1 →
    Renewing m e ⟨m.cache.renewal.isRunning, none, m.cache.renewal.failures + 1⟩
  /-- The step has nothing to do with renewal. -/
  | keep {e : Event} : m.counted? e = none → e.starts = false → e.stops = false →
    Renewing m e m.cache.renewal

theorem counted?_eq_some {m : Machine} {e : Event} {r : Except Fault CachedToken} :
    m.counted? e = some r ↔ ∃ n, e = .settle n ∧ m.call? n = some ⟨.renew, .ended r⟩ := by
  constructor
  · intro h
    unfold counted? at h
    split at h
    · rename_i n
      split at h
      · rename_i r' hn
        cases h
        exact ⟨n, rfl, hn⟩
      · cases h
    · cases h
  · rintro ⟨n, rfl, hn⟩
    simp [counted?, hn]

/-- A step that counts a renewal is one whose turn it is. -/
theorem isTurn_of_counted? {m : Machine} {e : Event} {r : Except Fault CachedToken}
    (h : m.counted? e = some r) : m.isTurn e = true := by
  obtain ⟨n, rfl, hn⟩ := counted?_eq_some.mp h
  simp [isTurn, hn]

theorem renewing_settle {m : Machine} {e : Event} {r : Except Fault CachedToken}
    (h : m.counted? e = some r) : Renewing m e (m.cache.settle r).1.renewal := by
  cases r with
  | ok t => exact .succeed h
  | error fault =>
    unfold Cache.settle Cache.cancelRenewal
    dsimp only
    split
    · rename_i hmax
      exact .giveUp h hmax
    · rename_i hmax
      exact .fail h (Nat.lt_of_not_le hmax)

theorem renewing_transition {m m' : Machine} {e : Event} (ht : Transition m e m') :
    Renewing m e m'.cache.renewal := by
  cases ht with
  | idle hi =>
    have hcounted : m.counted? e = none := by
      rw [Option.eq_none_iff_forall_ne_some]
      intro r hr
      rw [isTurn_of_counted? hr] at hi
      cases hi
    cases e with
    | startRenewal | cancelRenewal | shutdown => cases hi
    | _ => exact .keep hcounted rfl rfl
  | call hk =>
    cases hk with
    | settle h => exact renewing_settle (counted?_eq_some.mpr ⟨_, rfl, h⟩)
    | _ => exact .keep rfl rfl rfl
  | invalidate | advance => exact .keep rfl rfl rfl
  | observe status =>
    have hkept : (m.cache.observe status).renewal = m.cache.renewal := by
      unfold Cache.observe
      split <;> rfl
    dsimp only
    rw [hkept]
    exact .keep rfl rfl rfl
  | startRenewal interval => exact .start interval
  | cancelRenewal => exact .cancel
  | shutdown =>
    unfold Cache.shutdown
    split
    · rename_i hrunning
      exact .shutdown hrunning
    · rename_i hstopped
      exact .stopped (by simpa using hstopped)

/-! ### What a step changes -/

section Step

variable {m : Machine} {e : Event}

/-- A step that counts a renewal neither starts nor stops renewal. -/
theorem starts_of_counted? {r : Except Fault CachedToken} (h : m.counted? e = some r) :
    e.starts = false ∧ e.stops = false := by
  obtain ⟨n, rfl, -⟩ := counted?_eq_some.mp h
  exact ⟨rfl, rfl⟩

theorem fails_of_counted? {r : Except Fault CachedToken} (h : m.counted? e = some r) :
    fails (m, e) = !r.isOk := by simp [fails, h]

theorem resets_of_counted? {r : Except Fault CachedToken} (h : m.counted? e = some r) :
    resets (m, e) = r.isOk := by simp [resets, h, (starts_of_counted? h).1]

/-- A step of a call that is not made for renewal leaves the scheduler as it is. -/
theorem renewal_step_of_isOther (h : m.isOther e = true) :
    (m.step e).1.cache.renewal = m.cache.renewal := by
  have hr := renewing_transition (transition_step m e)
  have hcounted (r : Except Fault CachedToken) : m.counted? e ≠ some r := by
    intro hr
    obtain ⟨n, rfl, hn⟩ := counted?_eq_some.mp hr
    simp [isOther, hn] at h
  generalize (m.step e).1.cache.renewal = r at hr ⊢
  cases hr with
  | start | cancel | shutdown => cases h
  | succeed hc | fail hc | giveUp hc => exact absurd hc (hcounted _)
  | stopped | keep => rfl

theorem failures_step (m : Machine) (e : Event) :
    (m.step e).1.cache.renewal.failures =
      if resets (m, e) then 0 else m.cache.renewal.failures + (fails (m, e)).toNat := by
  have hr := renewing_transition (transition_step m e)
  generalize (m.step e).1.cache.renewal = r at hr ⊢
  cases hr with
  | start | cancel | shutdown | stopped => rfl
  | succeed hc =>
    rw [resets_of_counted? hc]
    rfl
  | fail hc | giveUp hc =>
    rw [resets_of_counted? hc, fails_of_counted? hc]
    rfl
  | keep hc hstart => simp [resets, fails, hc, hstart]

theorem isSome_interval_step (h : m.cache.renewal.IsSound) (e : Event) :
    (m.step e).1.cache.renewal.interval.isSome =
      if decides (m, e) then e.starts else m.cache.renewal.interval.isSome := by
  have hr := renewing_transition (transition_step m e)
  have hf := failures_step m e
  unfold decides givesUp
  dsimp only
  rw [hf]
  generalize (m.step e).1.cache.renewal = r at hr ⊢
  cases hr with
  | start | cancel | shutdown => rfl
  | stopped hstopped =>
    cases hi : m.cache.renewal.interval.isSome with
    | false => rfl
    | true => exact absurd (h.running hi) (by simp [hstopped])
  | succeed hc =>
    obtain ⟨hstart, hstop⟩ := starts_of_counted? hc
    rw [hstart, hstop, fails_of_counted? hc]
    rfl
  | fail hc hmax | giveUp hc hmax =>
    obtain ⟨hstart, hstop⟩ := starts_of_counted? hc
    have hok {fault : Fault} : (Except.error fault : Except Fault CachedToken).isOk = false := rfl
    simp [hstart, hstop, fails_of_counted? hc, resets_of_counted? hc, hok, hmax]
  | keep hc hstart hstop => simp [fails, hc, hstart, hstop]

theorem isSound_step (h : m.cache.renewal.IsSound) (e : Event) :
    (m.step e).1.cache.renewal.IsSound := by
  have hr := renewing_transition (transition_step m e)
  generalize (m.step e).1.cache.renewal = r at hr ⊢
  cases hr with
  | start => exact ⟨fun _ => rfl, fun _ => maxFailures_pos⟩
  | cancel | shutdown | giveUp => exact ⟨nofun, nofun⟩
  | succeed => exact ⟨h.running, fun _ => maxFailures_pos⟩
  | fail hc hmax => exact ⟨h.running, fun _ => hmax⟩
  | stopped | keep => exact h

end Step

/-! ### Accounts of a run -/

/-- The steps of a run, with the machines at which they are made. -/
def steps (now : Instant) (es : List Event) : List (Machine × Event) :=
  trace (fun m e => (m.step e).1) (start now) es

theorem steps_concat (now : Instant) (es : List Event) (e : Event) :
    steps now (es ++ [e]) = steps now es ++ [((start now).run es, e)] := by
  rw [steps, trace_append]
  rfl

theorem run_concat (m : Machine) (es : List Event) (e : Event) :
    m.run (es ++ [e]) = ((m.run es).step e).1 := run_append ..

theorem isSound_run (now : Instant) (es : List Event) :
    ((start now).run es).cache.renewal.IsSound := by
  induction es using List.reverseRecOn with
  | nil => exact ⟨nofun, nofun⟩
  | append_singleton es e ih =>
    rw [run_concat]
    exact isSound_step ih e

/-- The failures are those that were counted since renewal was last started or succeeded. -/
theorem failures_run (now : Instant) (es : List Event) :
    ((start now).run es).cache.renewal.failures =
      ((steps now es).rtakeWhile fun x => !resets x).countP fails := by
  induction es using List.reverseRecOn with
  | nil => rfl
  | append_singleton es e ih =>
    rw [run_concat, steps_concat, failures_step, ih, List.rtakeWhile_concat]
    cases hreset : resets ((start now).run es, e) with
    | true => rfl
    | false => simp [List.countP_append, countP_cons_eq]

/-- Renewal is active if the last step that had a say in it started it. -/
theorem isSome_interval_run (now : Instant) (es : List Event) :
    ((start now).run es).cache.renewal.interval.isSome =
      ((steps now es).filter decides).getLast?.any fun x => x.2.starts := by
  induction es using List.reverseRecOn with
  | nil => rfl
  | append_singleton es e ih =>
    rw [run_concat, steps_concat, isSome_interval_step (isSound_run now es), ih,
      List.filter_append]
    cases hdecides : decides ((start now).run es, e) with
    | true => simp [hdecides]
    | false => simp [hdecides]

/-- **The failures of renewals are accounted for.** After every run, in which calls interleave with
each other and with all else that happens to the cache, the failures are those of the renewals that
ended since renewal was last started or succeeded, and calls of other purposes do not change them;
while renewal is active they are fewer than those at which it is given up; and renewal is active if
and only if the last step that started it, stopped it or gave it up is one that started it. -/
theorem renewal_accounting (now : Instant) (es : List Event) :
    ((start now).run es).cache.renewal.failures =
        ((steps now es).rtakeWhile fun x => !resets x).countP fails ∧
      (∀ e, ((start now).run es).isOther e = true →
        (((start now).run es).step e).1.cache.renewal =
          ((start now).run es).cache.renewal) ∧
      (((start now).run es).cache.isRenewalActive = true →
        ((start now).run es).cache.renewal.failures < maxFailures) ∧
      (((start now).run es).cache.isRenewalActive = true ↔
        ∃ x, ((steps now es).filter decides).getLast? = some x ∧ x.2.starts = true) := by
  refine ⟨failures_run now es, fun e h => renewal_step_of_isOther h, (isSound_run now es).few, ?_⟩
  rw [← Option.any_eq_true, ← isSome_interval_run now es]
  rfl

/-- A renewal that fails after it was cancelled counts as one failure, and a call that looks at the
cache afterwards changes nothing about it. -/
theorem cancelled_renewal_fails :
    let m := (start ⟨0⟩).run [.startRenewal (.int 5), .look 0 .renew, .fetch 0, .cancelRenewal,
      .receive 0 (.error (invalidAnswer "No answer" none)), .settle 0]
    m.cache.renewal.failures = 1 ∧ ¬ m.cache.isRenewalActive = true ∧
      (m.step (.look 1 .use)).1.cache.renewal = m.cache.renewal := by
  obtain ⟨hfailures, hother, -, hactive⟩ := renewal_accounting ⟨0⟩ [.startRenewal (.int 5),
    .look 0 .renew, .fetch 0, .cancelRenewal,
    .receive 0 (.error (invalidAnswer "No answer" none)), .settle 0]
  refine ⟨hfailures.trans rfl, ?_, hother _ rfl⟩
  rintro h
  obtain ⟨x, hx, hs⟩ := hactive.mp h
  cases hx
  cases hs

end Machine

end RequestAuth
