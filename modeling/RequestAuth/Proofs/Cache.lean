import RequestAuth.Token.Cache
import RequestAuth.Proofs.Results

/-!
# The operations of the token cache

What each operation of the cache does to the token and the generation, what a successful fetch
brings, the token of the reply, which expires its lifetime after the fetch began, and what comes of
a whole call.
-/

namespace RequestAuth

namespace Cache

@[simp] theorem token_invalidate (c : Cache) : c.invalidate.token = none := rfl

@[simp] theorem generation_invalidate (c : Cache) :
    c.invalidate.generation = c.generation + 1 := rfl

theorem observe_of_eq {status : Value} (h : (status == .int unauthorized) = true) (c : Cache) :
    c.observe status = c.invalidate := if_pos h

theorem observe_of_ne {status : Value} (h : (status == .int unauthorized) = false) (c : Cache) :
    c.observe status = c := if_neg (by simp [h])

theorem store_of_ne {c : Cache} {t : CachedToken} (h : t.generation ≠ c.generation) (now : Instant)
    (fresh : Bool) : c.store now fresh t = (c, t) := if_pos h

theorem store_of_none {c : Cache} {t : CachedToken} (hg : t.generation = c.generation)
    (hc : c.token = none) (now : Instant) (fresh : Bool) :
    c.store now fresh t = ({ c with token := some t }, t) := by
  simp [store, hg, hc]

theorem store_of_good {c : Cache} {t current : CachedToken} {now : Instant} {fresh : Bool}
    (hg : t.generation = c.generation) (hc : c.token = some current)
    (h : (!fresh && !current.isExpired now) = true) : c.store now fresh t = (c, current) := by
  simp [store, hg, hc, h]

theorem store_of_replaced {c : Cache} {t current : CachedToken} {now : Instant} {fresh : Bool}
    (hg : t.generation = c.generation) (hc : c.token = some current)
    (h : (!fresh && !current.isExpired now) = false) :
    c.store now fresh t = ({ c with token := some t }, t) := by
  simp [store, hg, hc, h]

/-- A token that is to replace the kept one does, in its generation. -/
theorem store_fresh {c : Cache} {t : CachedToken} (hg : t.generation = c.generation)
    (now : Instant) : c.store now true t = ({ c with token := some t }, t) := by
  cases hc : c.token with
  | none => exact store_of_none hg hc now true
  | some current => exact store_of_replaced hg hc rfl

@[simp] theorem token_settle (c : Cache) (r : Except Fault CachedToken) :
    (c.settle r).1.token = c.token := by
  unfold settle cancelRenewal
  cases r with
  | ok t => rfl
  | error fault => simp only; split <;> rfl

@[simp] theorem generation_settle (c : Cache) (r : Except Fault CachedToken) :
    (c.settle r).1.generation = c.generation := by
  unfold settle cancelRenewal
  cases r with
  | ok t => rfl
  | error fault => simp only; split <;> rfl

@[simp] theorem token_shutdown (c : Cache) : c.shutdown.token = c.token := by
  unfold shutdown
  split <;> rfl

@[simp] theorem generation_shutdown (c : Cache) : c.shutdown.generation = c.generation := by
  unfold shutdown
  split <;> rfl

end Cache

/-! ### Looking and fetching -/

theorem Snapshot.usable?_eq_some {s : Snapshot} {now : Instant} {t : CachedToken} :
    s.usable? now = some t ↔ s.token = some t ∧ t.isExpired now = false := by
  simp [usable?, Option.filter_eq_some_iff]

theorem Snapshot.usable?_eq_none {s : Snapshot} {now : Instant} :
    s.usable? now = none ↔ ∀ t, s.token = some t → t.isExpired now = true := by
  simp [usable?, Option.filter_eq_none_iff]

theorem eq_of_expiry {started e : Instant} {lifetime : Int} (h : expiry started lifetime = .ok e) :
    e = started.plus lifetime := by
  unfold expiry at h
  dsimp only at h
  split at h
  · cases h
  · split at h
    · cases h
    · split at h
      · cases h
        rfl
      · cases h

theorem eq_of_receive {f : Fetch} {token : Token} {t : CachedToken} (h : f.receive token = .ok t) :
    t = ⟨token.access, token.type, token.lifetime.map f.started.plus, f.generation⟩ := by
  unfold Fetch.receive at h
  split at h
  · rename_i hl
    cases h
    rw [hl, Option.map_none]
  · rename_i n hl
    obtain ⟨expiresAt, he, h⟩ := bind_eq_ok.mp h
    cases h
    cases hx : expiry f.started n with
    | error fault => simp [hx, Except.map] at he
    | ok e =>
      rw [hx] at he
      cases he
      rw [hl, Option.map_some, eq_of_expiry hx]

/-- A token that is brought faults only for its lifetime. -/
theorem receive_eq_error {f : Fetch} {token : Token} {fault : Fault} :
    f.receive token = .error fault ↔
      ∃ n, token.lifetime = some n ∧ expiry f.started n = .error fault := by
  unfold Fetch.receive
  cases token.lifetime with
  | none =>
    constructor
    · rintro ⟨⟩
    · rintro ⟨n, hn, -⟩
      cases hn
  | some n =>
    simp only [Option.some.injEq, exists_eq_left']
    cases expiry f.started n with
    | ok e =>
      constructor
      · rintro ⟨⟩
      · rintro ⟨⟩
    | error fault' =>
      constructor
      · rintro ⟨⟩
        rfl
      · rintro ⟨⟩
        rfl

theorem generation_receive {f : Fetch} {reply : Except Fault Token} {t : CachedToken}
    (h : reply >>= f.receive = .ok t) : t.generation = f.generation := by
  obtain ⟨token, -, hr⟩ := bind_eq_ok.mp h
  rw [eq_of_receive hr]

/-! ### Whole calls -/

namespace Cache

variable {σ : Type} {c : Cache} {source : TokenSource σ} {now : Instant} {s w : σ}
  {reply : Except Fault Token} {t : CachedToken}

/-- A fetched token is kept when no usable one is there. -/
theorem store_of_unusable (h : c.snapshot.usable? now = none) (hg : t.generation = c.generation) :
    c.store now false t = ({ c with token := some t }, t) := by
  cases hc : c.token with
  | none => exact store_of_none hg hc now false
  | some current =>
    have hexpired := Snapshot.usable?_eq_none.mp h current hc
    exact store_of_replaced hg hc (by simp [hexpired])

theorem obtain_of_usable (h : c.snapshot.usable? now = some t) :
    c.obtain source false now s = (.ok t, c, s) := by
  unfold obtain
  rw [if_neg Bool.false_ne_true, h]

theorem obtain_of_fault {fault : Fault} (h : c.snapshot.usable? now = none)
    (hs : source s = (reply, w))
    (hr : reply >>= (Fetch.mk c.generation now).receive = .error fault) :
    c.obtain source false now s = (.error fault, c, w) := by
  unfold obtain
  rw [if_neg Bool.false_ne_true, h]
  simp only [hs, snapshot, hr]

theorem obtain_of_fetched (h : c.snapshot.usable? now = none) (hs : source s = (reply, w))
    (hr : reply >>= (Fetch.mk c.generation now).receive = .ok t) :
    c.obtain source false now s = (.ok t, { c with token := some t }, w) := by
  have hstore := store_of_unusable h (generation_receive hr)
  unfold obtain
  rw [if_neg Bool.false_ne_true, h]
  simp only [hs, snapshot, hr, hstore]

end Cache

end RequestAuth
