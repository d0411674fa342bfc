import RequestAuth.Proofs.Machine.History

/-!
# A fetch that fails leaves no trace

A call makes its mark on the cache when it keeps a token, and only then. As long as it is on its way
to one, and when it is over without one, the machine is the one that the other steps alone would have
made, but for the call itself (`SameBut`): its own steps can be left out of the run, whatever happens
between them. A token that is kept stays kept unless one of the other steps takes it away.

The generation counts the drops, and no step of a call is one.
-/

namespace RequestAuth

/-- Whether a step is one of a call. -/
def Event.isOf (n : Nat) : Event → Bool
  | .look k _ | .decide k | .fetch k | .receive k _ | .store k | .settle k => k == n
  | _ => false

/-- Whether a call that came so far has got no token, neither from its own fetch nor from the
cache. -/
def Phase.isUnserved : Phase → Bool
  | .looked _ | .wanting _ | .fetching _ | .ended (.error _) => true
  | _ => false

namespace Machine

/-- Two machines are the same but for one call. -/
structure SameBut (n : Nat) (m m' : Machine) : Prop where
  /-- They have one cache. -/
  cache : m'.cache = m.cache
  /-- They have one clock. -/
  now : m'.now = m.now
  /-- All other calls are the same. -/
  calls : ∀ k, k ≠ n → m'.call? k = m.call? k

variable {m m' m'' : Machine} {e : Event} {n : Nat}

/-! ### The steps of others -/

namespace SameBut

theorem refl (n : Nat) (m : Machine) : SameBut n m m := ⟨rfl, rfl, fun _ _ => rfl⟩

theorem trans (h : SameBut n m m') (h' : SameBut n m' m'') : SameBut n m m'' :=
  ⟨h'.cache.trans h.cache, h'.now.trans h.now,
    fun k hk => (h'.calls k hk).trans (h.calls k hk)⟩

theorem put_self (m : Machine) (n : Nat) (p : Purpose) (ph : Phase) :
    SameBut n m (m.put n p ph) :=
  ⟨rfl, rfl, fun _ hk => call?_put_of_ne hk m p ph⟩

theorem put (h : SameBut n m m') (k : Nat) (p : Purpose) (ph : Phase) :
    SameBut n (m.put k p ph) (m'.put k p ph) := by
  refine ⟨h.cache, h.now, fun x hx => ?_⟩
  by_cases hk : x = k
  · rw [hk, call?_put_self, call?_put_self]
  · rw [call?_put_of_ne hk, call?_put_of_ne hk, h.calls x hx]

theorem withCache (h : SameBut n m m') (c : Cache) :
    SameBut n { m with cache := c } { m' with cache := c } := ⟨rfl, h.now, h.calls⟩

/-- A step of another call, or of none, does the same to both. -/
theorem step (h : SameBut n m m') (he : e.isOf n = false) :
    SameBut n (m.step e).1 (m'.step e).1 := by
  have hcall {k : Nat} (hk : (k == n) = false) : m'.call? k = m.call? k :=
    h.calls k (by simpa using hk)
  obtain ⟨_, _, calls⟩ := m
  obtain ⟨cache, now, calls'⟩ := m'
  obtain rfl := h.cache
  obtain rfl := h.now
  cases e with
  | look k p =>
    simp only [Machine.step, hcall he]
    split
    · exact h
    · exact h.put k p _
  | decide k =>
    simp only [Machine.step, hcall he]
    split
    · rename_i p seen _
      simp only [decided]
      split <;> exact h.put k p _
    · exact h
  | fetch k =>
    simp only [Machine.step, hcall he]
    split
    · rename_i p g _
      exact h.put k p _
    · exact h
  | receive k reply =>
    simp only [Machine.step, hcall he]
    split
    · rename_i p f _
      simp only [received]
      split <;> exact h.put k p _
    · exact h
  | store k =>
    simp only [Machine.step, hcall he]
    split
    · rename_i p t _
      exact (h.withCache (cache.store now p.isFresh t).1).put k p _
    · exact h
  | settle k =>
    simp only [Machine.step, hcall he]
    split
    · rename_i r _
      exact (h.withCache (cache.settle r).1).put k .renew _
    · exact h
  | advance seconds => exact ⟨rfl, rfl, h.calls⟩
  | invalidate | observe | startRenewal | cancelRenewal | shutdown => exact h.withCache _

end SameBut

/-! ### The steps of one call -/

/-- A call that has got no token had got none before. -/
theorem isUnserved_of_transition (ht : Transition m e m')
    (h : ∀ c, m'.call? n = some c → c.phase.isUnserved = true) :
    ∀ c, m.call? n = some c → c.phase.isUnserved = true := by
  intro c hc
  obtain ⟨⟨p, ph⟩, hc'⟩ : ∃ c', m'.call? n = some c' := by
    rw [← Option.isSome_iff_exists, isSome_call?_transition ht, hc]
    rfl
  have hph := h _ hc'
  rcases call?_transition ht hc' with hold | ⟨cache, hs⟩
  · cases hc.symm.trans hold
    exact hph
  · cases hs with
    | look hn | lookFresh hn => cases hc.symm.trans hn
    | want hn | fetch hn | fail hn =>
      cases hc.symm.trans hn
      rfl
    | _ => cases hph

/-- A step with which a call gets no token leaves no trace. -/
theorem sameBut_transition (ht : Transition m e m') (he : e.isOf n = true)
    (h : ∀ c, m'.call? n = some c → c.phase.isUnserved = true) : SameBut n m m' := by
  cases ht with
  | idle => exact .refl n m
  | @call e k p ph c hs =>
    obtain rfl : k = n := by cases hs <;> simpa [Event.isOf] using he
    have hph : ph.isUnserved = true := h _ (call?_put_self _ k p ph)
    obtain rfl : c = m.cache := by
      cases hs with
      | keep | settle => cases hph
      | _ => rfl
    exact .put_self m k p ph
  | _ => cases he

/-- **The steps of a call that gets no token can be left out.** -/
theorem sameBut_run {es : List Event}
    (h : ∀ c, (m.run es).call? n = some c → c.phase.isUnserved = true) :
    SameBut n (m.run (es.filter fun e => !e.isOf n)) (m.run es) := by
  induction es using List.reverseRecOn with
  | nil => exact .refl n m
  | append_singleton es e ih =>
    rw [run_append] at h ⊢
    have ht := transition_step (m.run es) e
    have hbefore := ih (isUnserved_of_transition ht h)
    cases he : e.isOf n with
    | true =>
      have hfilter : (es ++ [e]).filter (fun e => !e.isOf n) = es.filter fun e => !e.isOf n := by
        simp [List.filter_append, he]
      rw [hfilter]
      exact hbefore.trans (sameBut_transition ht he h)
    | false =>
      have hfilter : (es ++ [e]).filter (fun e => !e.isOf n) =
          (es.filter fun e => !e.isOf n) ++ [e] := by
        simp [List.filter_append, he]
      rw [hfilter, run_append]
      exact hbefore.step he

/-! ### What came of a call -/

theorem result?_transition (ht : Transition m e m') {r : Except Fault CachedToken}
    (h : m.result? n = some r) : m'.result? n = some r := by
  obtain ⟨p, hc⟩ := result?_eq_some.mp h
  obtain ⟨⟨q, ph⟩, hc'⟩ : ∃ c', m'.call? n = some c' := by
    rw [← Option.isSome_iff_exists, isSome_call?_transition ht]
    rcases hc with hc | hc <;> rw [hc] <;> rfl
  refine result?_eq_some.mpr ⟨q, ?_⟩
  rcases call?_transition ht hc' with hold | ⟨cache, hs⟩
  · rcases hc with hc | hc
    · cases hc.symm.trans hold
      exact .inl hc'
    · cases hc.symm.trans hold
      exact .inr hc'
  · -- the only step of a call that is over is the one that counts its end
    cases hs with
    | settle hn =>
      rcases hc with hc | hc
      · cases hc.symm.trans hn
        exact .inr hc'
      · cases hc.symm.trans hn
    | look hn | lookFresh hn | reuse hn | want hn | fetch hn | bring hn | fail hn | discard hn
    | defer hn | keep hn => rcases hc with hc | hc <;> cases hc.symm.trans hn

/-- What came of a call stays. -/
theorem result?_run {r : Except Fault CachedToken} (h : m.result? n = some r) (es : List Event) :
    (m.run es).result? n = some r :=
  run_induction (P := fun _ m' => m'.result? n = some r) h
    (fun _ _ _ ih ht => result?_transition ht ih) es

/-- A fetch that brings no token to keep ends its call. -/
theorem call?_step_receive {p : Purpose} {f : Fetch} {reply : Except Fault Token} {fault : Fault}
    (hn : m.call? n = some ⟨p, .fetching f⟩) (hr : reply >>= f.receive = .error fault) :
    (m.step (.receive n reply)).1.call? n = some ⟨p, .ended (.error fault)⟩ := by
  simp only [Machine.step, hn, received, hr, call?_put_self]

/-- A call that ends in a fault leaves what the other steps made. -/
theorem sameBut_of_ended {es : List Event} {p : Purpose} {reply : Except Fault Token}
    {fault : Fault}
    (h : (m.run (es ++ [.receive n reply])).call? n = some ⟨p, .ended (.error fault)⟩) :
    SameBut n (m.run (es.filter fun e => !e.isOf n)) (m.run (es ++ [.receive n reply])) := by
  have hfilter : (es ++ [Event.receive n reply]).filter (fun e => !e.isOf n) =
      es.filter fun e => !e.isOf n := by
    simp [List.filter_append, Event.isOf]
  rw [← hfilter]
  refine sameBut_run fun c hc => ?_
  cases h.symm.trans hc
  rfl

/-! ### The generation -/

/-- The generation counts the drops. -/
theorem generation_run (m : Machine) (es : List Event) :
    (m.run es).cache.generation = m.cache.generation + es.countP Event.drops := by
  refine run_induction (P := fun es m' =>
    m'.cache.generation = m.cache.generation + es.countP Event.drops) rfl
    (fun es e m' ih ht => ?_) es
  rw [generation_transition ht, ih, List.countP_append, List.countP_singleton, Nat.add_assoc]
  cases e.drops <;> rfl

theorem not_isOf_of_drops (h : e.drops = true) (n : Nat) : e.isOf n = false := by
  cases e with
  | invalidate | observe => rfl
  | _ => cases h

theorem countP_drops_filter (n : Nat) (es : List Event) :
    (es.filter fun e => !e.isOf n).countP Event.drops = es.countP Event.drops := by
  rw [List.countP_filter]
  refine List.countP_congr fun e _ => ?_
  rw [Bool.and_eq_true]
  exact ⟨And.left, fun h => ⟨h, by simp [not_isOf_of_drops h n]⟩⟩

/-! ### No trace -/

/-- **A fetch that fails leaves no trace.** From whatever state a run goes out: when a fetch ends in
a fault, or brings a token whose expiry cannot be computed, the call ends in that fault for good,
and the cache, the clock and all other calls are what the other steps made of them, so the cache is
what it was if there were none. And no call changes the generation. -/
theorem failed_fetch_leaves_no_trace (m : Machine) (n : Nat) :
    (∀ es p f reply fault, (m.run es).call? n = some ⟨p, .fetching f⟩ →
      (reply = .error fault ∨ ∃ token seconds, reply = .ok token ∧
        token.lifetime = some seconds ∧ expiry f.started seconds = .error fault) →
      (∀ later, (m.run (es ++ .receive n reply :: later)).result? n = some (.error fault)) ∧
      SameBut n (m.run (es.filter fun e => !e.isOf n)) (m.run (es ++ [.receive n reply])) ∧
      ((∀ e ∈ es, e.isOf n = true) → (m.run (es ++ [.receive n reply])).cache = m.cache)) ∧
    ∀ es, (m.run es).cache.generation =
      (m.run (es.filter fun e => !e.isOf n)).cache.generation := by
  refine ⟨fun es p f reply fault hn hreply => ?_, fun es => ?_⟩
  · have hr : reply >>= f.receive = .error fault := by
      rw [bind_eq_error]
      exact hreply.imp_right fun ⟨token, seconds, ht, hl, he⟩ =>
        ⟨token, ht, receive_eq_error.mpr ⟨seconds, hl, he⟩⟩
    have hended : (m.run (es ++ [.receive n reply])).call? n = some ⟨p, .ended (.error fault)⟩ := by
      rw [run_append]
      exact call?_step_receive hn hr
    have hsame := sameBut_of_ended hended
    refine ⟨fun later => ?ended, hsame, fun hown => ?alone⟩
    case ended =>
      have hresult := result?_run (result?_eq_some.mpr ⟨p, .inl hended⟩) later
      rwa [← run_append, List.append_assoc] at hresult
    case alone =>
      have hnone : es.filter (fun e => !e.isOf n) = [] := by
        rw [List.filter_eq_nil_iff]
        exact fun e he => by simp [hown e he]
      rw [hsame.cache, hnone, run_nil]
  · rw [generation_run, generation_run, countP_drops_filter]

/-- A call fetches a token for a minute and keeps it. -/
def oneKept : List Event :=
  [.look 0 .use, .decide 0, .fetch 0, .receive 0 (.ok early), .store 0]

/-- A renewal fails, and the clock moves for half of the minute. -/
def failedRenewal : List Event :=
  [.startRenewal (.int 5), .look 2 .renew, .fetch 2,
    .receive 2 (.error (invalidAnswer "No answer" none)), .settle 2, .advance 30]

/-- A token whose expiry lies behind the end of the calendar. -/
def overlong : Token := ⟨.text "long", .text "Bearer", some 400000000000, .null⟩

/-- A refresh that brings such a token, while a renewal fails, leaves the kept token, which is still
good, and the one failure. -/
theorem overlong_refresh_leaves_no_trace :
    let m := (start ⟨0⟩).run oneKept
    let es := .look 1 .refresh :: .fetch 1 :: failedRenewal
    ∃ t detail, m.cache.token = some t ∧ t.isExpired ⟨30⟩ = false ∧
      (m.run (es ++ [.receive 1 (.ok overlong)])).result? 1 = some (.error (.outOfRange detail)) ∧
      (m.run (es ++ [.receive 1 (.ok overlong)])).cache = (m.run failedRenewal).cache ∧
      (m.run failedRenewal).cache.token = some t ∧
      (m.run failedRenewal).cache.renewal.failures = 1 := by
  intro m es
  obtain ⟨hended, hsame, -⟩ := (failed_fetch_leaves_no_trace m 1).1 es .refresh ⟨0, ⟨0⟩⟩
    (.ok overlong) (.outOfRange "date value out of range") rfl
    (.inr ⟨overlong, 400000000000, rfl, rfl, rfl⟩)
  exact ⟨_, _, rfl, rfl, hended [], hsame.cache, rfl, rfl⟩

end Machine

end RequestAuth
