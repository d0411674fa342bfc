import RequestAuth.Proofs.Machine.History

/-!
# No token outlives an invalidation

However the steps of any number of calls, renewals and invalidations interleave, the token that is
kept is of the current generation, and a call that gives a token out gives one whose fetching call
looked at the cache in the same generation as the call itself: no drop lies between the two looks.
So what a call fetches that looked before a drop is never kept after it, and no call that begins
after it gives it out.
-/

namespace RequestAuth.Machine

/-- **No token outlives an invalidation.** In every run the kept token is of the current generation;
every token given out was fetched by a call, and every drop made before one of these two calls
looked was made before both looked; and what a call fetches that looked before a drop is not kept
after the drop, and no call that begins after the drop gives it out. -/
theorem token_dies_with_its_generation (now : Instant) (es : List Event) :
    (∀ t, ((start now).run es).cache.token = some t →
      t.generation = ((start now).run es).cache.generation) ∧
    (∀ n t, ((start now).run es).result? n = some (.ok t) → ∃ k, Fetched (start now) es k t) ∧
    (∀ n k t i, ((start now).run es).result? n = some (.ok t) → Fetched (start now) es k t →
      DropsAt es i → (i < began es n ↔ i < began es k)) ∧
    (∀ k t i, Fetched (start now) es k t → DropsAt es i → began es k < i →
      ((start now).run es).cache.token ≠ some t ∧
      ∀ n, i < began es n → ((start now).run es).result? n ≠ some (.ok t)) := by
  have hs := sourced_run now es
  have hd := dated_run now es
  have hboth (n k : Nat) (t : CachedToken) (i : Nat)
      (hn : ((start now).run es).result? n = some (.ok t)) (hk : Fetched (start now) es k t)
      (hi : DropsAt es i) : i < began es n ↔ i < began es k :=
    lt_began_iff ((hd.result hn).symm.trans hk.generation_eq) hi
  refine ⟨hd.token, fun n t hn => hs.result hn, hboth, fun k t i hk hi hlt => ⟨?_, ?_⟩⟩
  · intro hc
    have hold := hi.dateOf_lt (Nat.le_of_lt hlt)
    rw [← hk.generation_eq, hd.token t hc, hd.generation] at hold
    exact Nat.lt_irrefl _ hold
  · intro n hn hr
    exact absurd ((hboth n k t i hr hk hi).mp hn) (Nat.not_lt.mpr (Nat.le_of_lt hlt))

/-- A reply is refused while a call fetches, and another call fetches and keeps its token first. -/
def refusedMidway : List Event :=
  [.look 0 .use, .decide 0, .fetch 0, .observe (.int unauthorized), .look 1 .use, .decide 1,
    .fetch 1, .receive 1 (.ok late), .store 1, .receive 0 (.ok early), .store 0]

/-- The first call gives out what it fetched, and that is not kept. -/
theorem early_token_not_kept :
    ∃ t, Fetched (start ⟨0⟩) refusedMidway 0 t ∧ DropsAt refusedMidway 3 ∧
      began refusedMidway 0 < 3 ∧ ((start ⟨0⟩).run refusedMidway).result? 0 = some (.ok t) ∧
      ((start ⟨0⟩).run refusedMidway).cache.token ≠ some t := by
  have hf : Fetched (start ⟨0⟩) refusedMidway 0
      ⟨.text "early", .text "Bearer", some ⟨60⟩, 0⟩ :=
    ⟨_, .use, ⟨0, ⟨0⟩⟩, .ok early, ⟨refusedMidway.take 9, [.store 0], rfl, rfl⟩, rfl, rfl⟩
  have hd : DropsAt refusedMidway 3 := ⟨_, rfl, rfl⟩
  have hb : began refusedMidway 0 < 3 := by decide
  exact ⟨_, hf, hd, hb, rfl,
    ((token_dies_with_its_generation ⟨0⟩ refusedMidway).2.2.2 0 _ 3 hf hd hb).1⟩

end RequestAuth.Machine
