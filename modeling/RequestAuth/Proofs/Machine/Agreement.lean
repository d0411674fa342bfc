import RequestAuth.Proofs.Machine.History

/-!
# Readers agree on one good token

A call made to use a token gives out what it fetched itself, or a token that was kept when it looked
and that it found good by the clock; a token expires its lifetime after the instant at which its
fetch began (`Read`). As long as nobody drops the token, no refresh keeps another one and the kept
token is good whenever a call holds it against the clock (`Undisturbed`), the token stays, every
call that looks gets it, and so does every call whose own fetch comes too late.
-/

namespace RequestAuth

namespace Machine

/-! ### What a call read -/

/-- In a run a call looks at the cache while a token is kept. -/
def Saw (m₀ : Machine) (es : List Event) (n : Nat) (t : CachedToken) : Prop :=
  ∃ m, Made m₀ es m (.look n .use) ∧ m.call? n = none ∧ m.cache.token = some t

/-- In a run a call holds the token that it saw against the clock and finds it good. -/
def Reused (m₀ : Machine) (es : List Event) (n : Nat) (t : CachedToken) : Prop :=
  Saw m₀ es n t ∧ ∃ m seen, Made m₀ es m (.decide n) ∧ m.call? n = some ⟨.use, .looked seen⟩ ∧
    seen.token = some t ∧ t.isExpired m.now = false

/-- In a run a call is about to keep what it fetched and finds a good token kept. -/
def Deferred (m₀ : Machine) (es : List Event) (n : Nat) (t : CachedToken) : Prop :=
  ∃ m own, Made m₀ es m (.store n) ∧ m.call? n = some ⟨.use, .fetched own⟩ ∧
    m.cache.token = some t ∧ t.isExpired m.now = false

/-- In a run a call begins to fetch at an instant. -/
def BeganFetch (m₀ : Machine) (es : List Event) (n : Nat) (started : Instant) : Prop :=
  ∃ m p g, Made m₀ es m (.fetch n) ∧ m.call? n = some ⟨p, .wanting g⟩ ∧ m.now = started

/-- In a run the fetch of a call is answered with a token. -/
def Answered (m₀ : Machine) (es : List Event) (n : Nat) (token : Token) : Prop :=
  ∃ m, Made m₀ es m (.receive n (.ok token)) ∧ m.isFetching n = true

end Machine

open Machine in
/-- What a call read on its way to a phase. -/
def Phase.IsRead (m₀ : Machine) (es : List Event) (n : Nat) (p : Purpose) : Phase → Prop
  | .looked seen => p = .use ∧ ∀ t, seen.token = some t → Saw m₀ es n t
  | .fetching f => BeganFetch m₀ es n f.started
  | .ended (.ok t) => Fetched m₀ es n t ∨ Reused m₀ es n t ∨ Deferred m₀ es n t
  | _ => True

open Machine in
theorem Phase.IsRead.append {m₀ : Machine} {es : List Event} {n : Nat} {p : Purpose} {ph : Phase}
    (h : ph.IsRead m₀ es n p) (later : List Event) : ph.IsRead m₀ (es ++ later) n p := by
  have hsaw {t : CachedToken} : Saw m₀ es n t → Saw m₀ (es ++ later) n t :=
    fun ⟨m, hm, hn⟩ => ⟨m, hm.append later, hn⟩
  cases ph with
  | looked seen => exact ⟨h.1, fun t ht => hsaw (h.2 t ht)⟩
  | fetching f =>
    obtain ⟨m, p, g, hm, hn⟩ := h
    exact ⟨m, p, g, hm.append later, hn⟩
  | ended r =>
    cases r with
    | error fault => trivial
    | ok t =>
      rcases h with hf | ⟨hs, m, seen, hm, hn⟩ | ⟨m, own, hm, hn⟩
      · exact .inl (hf.append later)
      · exact .inr (.inl ⟨hsaw hs, m, seen, hm.append later, hn⟩)
      · exact .inr (.inr ⟨m, own, hm.append later, hn⟩)
  | _ => trivial

namespace Machine

/-- What the calls of a machine read. -/
def Read (m₀ : Machine) (es : List Event) (m : Machine) : Prop :=
  ∀ n p ph, m.call? n = some ⟨p, ph⟩ → ph.IsRead m₀ es n p

theorem Read.step {now : Instant} {m' : Machine} {es : List Event} {e : Event}
    (h : Read (start now) es ((start now).run es)) (ht : Transition ((start now).run es) e m') :
    Read (start now) (es ++ [e]) m' := by
  intro n p ph hn
  rcases call?_transition ht hn with hn | ⟨c, hs⟩
  · exact (h n p ph hn).append [e]
  · clear hn
    have hmade := made_concat (start now) es e
    cases hs with
    | look hn => exact ⟨rfl, fun t hc => ⟨_, hmade, hn, hc⟩⟩
    | @reuse _ _ seen t hn hs he =>
      obtain ⟨rfl, hsaw⟩ := (h n p _ hn).append [.decide n]
      exact .inr (.inl ⟨hsaw t hs, _, seen, hmade, hn, hs, he⟩)
    | fetch hn => exact ⟨_, p, _, hmade, hn, rfl⟩
    | discard hn | keep hn => exact .inl (Fetched.append ((sourced_run now es).calls n p _ hn) _)
    | defer hn _ hp hc he =>
      obtain rfl : p = .use := by simpa [Purpose.isFresh] using hp
      exact .inr (.inr ⟨_, _, hmade, hn, hc, he⟩)
    | _ => trivial

theorem read_run (now : Instant) (es : List Event) :
    Read (start now) es ((start now).run es) :=
  run_induction nofun (fun _ _ _ h ht => Read.step h ht) es

/-- A fetched token is that of the reply, and expires its lifetime after its fetch began. -/
theorem Fetched.origin {now : Instant} {es : List Event} {k : Nat} {t : CachedToken}
    (h : Fetched (start now) es k t) :
    ∃ started token, BeganFetch (start now) es k started ∧ Answered (start now) es k token ∧
      t.access = token.access ∧ t.expiresAt = token.lifetime.map started.plus := by
  obtain ⟨m, p, f, reply, ⟨before, after, rfl, rfl⟩, hf, ht⟩ := h
  obtain ⟨token, rfl, hr⟩ := bind_eq_ok.mp ht
  have hbegan := (read_run now before k p _ hf).append (.receive k (.ok token) :: after)
  rw [eq_of_receive hr]
  refine ⟨f.started, token, hbegan, ⟨_, ⟨before, after, rfl, rfl⟩, ?_⟩, rfl, rfl⟩
  simp [isFetching, hf]

/-! ### Stretches in which the token is left alone -/

/-- Whether a step is that of a refresh which keeps its token. -/
def refreshes (m : Machine) : Event → Bool
  | .store n => match m.call? n with
    | some ⟨p, .fetched _⟩ => p.isFresh
    | _ => false
  | _ => false

/-- Whether a step holds a token against the clock: that which a call saw, or that which is kept
when a call comes with another one of the same generation. -/
def compares (m : Machine) : Event → Bool
  | .decide n => match m.call? n with
    | some ⟨_, .looked seen⟩ => seen.token.isSome
    | _ => false
  | .store n => match m.call? n with
    | some ⟨p, .fetched t⟩ =>
      !p.isFresh && t.generation == m.cache.generation && m.cache.token.isSome
    | _ => false
  | _ => false

/-- Over a stretch of a run nobody drops the token, no refresh keeps its token, and `T` is good
whenever a token is held against the clock. -/
structure Undisturbed (T : CachedToken) (m₀ : Machine) (es : List Event) : Prop where
  kept : ∀ m e, Made m₀ es m e → e.drops = false
  alone : ∀ m e, Made m₀ es m e → m.refreshes e = false
  good : ∀ m e, Made m₀ es m e → m.compares e = true → T.isExpired m.now = false

theorem Undisturbed.left {T : CachedToken} {m₀ : Machine} {es later : List Event}
    (h : Undisturbed T m₀ (es ++ later)) : Undisturbed T m₀ es :=
  ⟨fun m e hm => h.kept m e (hm.append later), fun m e hm => h.alone m e (hm.append later),
    fun m e hm => h.good m e (hm.append later)⟩

variable {m m' : Machine} {e : Event} {T : CachedToken} {n : Nat}

theorem token_of_undisturbed (ht : Transition m e m') (hT : m.cache.token = some T)
    (hd : e.drops = false) (hr : m.refreshes e = false)
    (hg : m.compares e = true → T.isExpired m.now = false) : m'.cache.token = some T := by
  cases ht with
  | @call e k p ph c hs =>
    cases hs with
    | keep hn hgen hk =>
      -- a call that keeps its token is a refresh, or found that `T` has expired
      have hp : p.isFresh = false := by simpa [refreshes, hn] using hr
      have := hg (by simp [compares, hn, hp, hgen, hT])
      simp [hk hp T hT] at this
    | settle => exact (Cache.token_settle _ _).trans hT
    | _ => exact hT
  | invalidate => cases hd
  | observe status => exact (congrArg Cache.token (Cache.observe_of_ne hd _)).trans hT
  | shutdown => exact (Cache.token_shutdown _).trans hT
  | _ => exact hT

/-- The token stays over the stretch, and so does the generation. -/
theorem Undisturbed.run {es : List Event} (h : Undisturbed T m es) (hT : m.cache.token = some T) :
    (m.run es).cache.token = some T ∧ (m.run es).cache.generation = m.cache.generation := by
  refine run_induction (P := fun es m' => Undisturbed T m es →
    m'.cache.token = some T ∧ m'.cache.generation = m.cache.generation)
    (fun _ => ⟨hT, rfl⟩) (fun es e m' ih ht h => ?_) es h
  obtain ⟨htoken, hgen⟩ := ih h.left
  have hmade := made_concat m es e
  have hd := h.kept _ e hmade
  refine ⟨token_of_undisturbed ht htoken hd (h.alone _ e hmade) (h.good _ e hmade), ?_⟩
  rw [generation_transition ht, hd, hgen]
  rfl

theorem Undisturbed.nil : Undisturbed T m [] := by
  constructor <;> rintro _ _ ⟨before, after, h, -⟩ <;> simp at h

theorem Undisturbed.cons {es : List Event} (hd : e.drops = false) (hr : m.refreshes e = false)
    (hg : m.compares e = true → T.isExpired m.now = false)
    (h : Undisturbed T (m.step e).1 es) : Undisturbed T m (e :: es) := by
  refine ⟨fun m' e' hm => ?kept, fun m' e' hm => ?alone, fun m' e' hm => ?good⟩ <;>
    rcases made_cons hm with ⟨rfl, rfl⟩ | hm
  case kept.inl => exact hd
  case kept.inr => exact h.kept m' e' hm
  case alone.inl => exact hr
  case alone.inr => exact h.alone m' e' hm
  case good.inl => exact hg
  case good.inr => exact h.good m' e' hm

/-! ### Calls that look at the token -/

/-- A call saw `T` and has not judged it yet, or it is over with `T`. -/
def HasSeen (T : CachedToken) (n : Nat) (m : Machine) : Prop :=
  (∃ g, m.call? n = some ⟨.use, .looked ⟨some T, g⟩⟩) ∨ m.call? n = some ⟨.use, .ended (.ok T)⟩

/-- A call that is there stays there. -/
theorem exists_call?_transition (ht : Transition m e m') {c : Call} (h : m.call? n = some c) :
    ∃ p ph, m'.call? n = some ⟨p, ph⟩ := by
  have := isSome_call?_transition ht n
  rw [h, Option.isSome_some, Bool.true_or] at this
  obtain ⟨⟨p, ph⟩, hc⟩ := Option.isSome_iff_exists.mp this
  exact ⟨p, ph, hc⟩

/-- A call that is over stays so. -/
theorem ended_transition (ht : Transition m e m') {r : Except Fault CachedToken}
    (h : m.call? n = some ⟨.use, .ended r⟩) : m'.call? n = some ⟨.use, .ended r⟩ := by
  obtain ⟨p, ph, hc⟩ := exists_call?_transition ht h
  rcases call?_transition ht hc with hold | ⟨c, hs⟩
  · rw [hc, ← hold, h]
  · cases hs <;> simp_all

theorem ended_run {r : Except Fault CachedToken} (h : m.call? n = some ⟨.use, .ended r⟩)
    (es : List Event) : (m.run es).call? n = some ⟨.use, .ended r⟩ :=
  run_induction (P := fun _ m' => m'.call? n = some ⟨.use, .ended r⟩) h
    (fun _ _ _ ih ht => ended_transition ht ih) es

/-- A call that saw `T` judges it good, so it never fetches. -/
theorem HasSeen.step (h : HasSeen T n m) (ht : Transition m e m')
    (hg : e = .decide n → m.compares e = true → T.isExpired m.now = false) : HasSeen T n m' := by
  rcases h with ⟨g, hn⟩ | hn
  · obtain ⟨p, ph, hc⟩ := exists_call?_transition ht hn
    rcases call?_transition ht hc with hold | ⟨c, hs⟩
    · rw [hn] at hold
      exact .inl ⟨g, by rw [hc, ← hold]⟩
    · cases hs with
      | reuse hk hs =>
        cases hn.symm.trans hk
        cases hs
        exact .inr hc
      | want hk hs =>
        cases hn.symm.trans hk
        have := hg rfl (by simp [compares, hn])
        simp [hs T rfl] at this
      | _ => simp_all
  · exact .inr (ended_transition ht hn)

theorem HasSeen.run (h : HasSeen T n m) {es : List Event}
    (hg : ∀ m', Made m es m' (.decide n) → m'.compares (.decide n) = true →
      T.isExpired m'.now = false) : HasSeen T n (m.run es) := by
  refine run_induction (P := fun es m' => (∀ m', Made m es m' (.decide n) →
    m'.compares (.decide n) = true → T.isExpired m'.now = false) → HasSeen T n m')
    (fun _ => h) (fun es e m' ih ht hg => ?_) es hg
  refine (ih fun m'' hm => hg m'' (hm.append [e])).step ht ?_
  rintro rfl
  exact hg _ (made_concat m es _)

/-- A call that judges `T` while it is good is over with it. -/
theorem HasSeen.decide (h : HasSeen T n m)
    (hg : m.compares (.decide n) = true → T.isExpired m.now = false) :
    (m.step (.decide n)).1.call? n = some ⟨.use, .ended (.ok T)⟩ := by
  rcases h with ⟨g, hn⟩ | hn
  · have := hg (by simp [compares, hn])
    have hu : (Snapshot.mk (some T) g).usable? m.now = some T :=
      Snapshot.usable?_eq_some.mpr ⟨rfl, this⟩
    simp [Machine.step, hn, Machine.decided, hu]
  · exact ended_transition (transition_step m _) hn

theorem HasSeen.decided (h : HasSeen T n m) {es : List Event}
    (hg : ∀ m', Made m es m' (.decide n) → m'.compares (.decide n) = true →
      T.isExpired m'.now = false) (hd : .decide n ∈ es) :
    (m.run es).call? n = some ⟨.use, .ended (.ok T)⟩ := by
  obtain ⟨before, after, rfl⟩ := List.append_of_mem hd
  have hseen : HasSeen T n (m.run before) := h.run fun m' hm => hg m' (hm.append _)
  rw [run_append, run_cons]
  exact ended_run (hseen.decide (hg _ ⟨before, after, rfl, rfl⟩)) after

theorem Undisturbed.hasSeen {before after : List Event}
    (h : Undisturbed T m (before ++ .look n .use :: after)) (hT : m.cache.token = some T)
    (hn : (m.run before).call? n = none) :
    HasSeen T n ((m.run before).step (.look n .use)).1 := by
  obtain ⟨htoken, -⟩ := h.left.run hT
  refine .inl ⟨(m.run before).cache.generation, ?_⟩
  simp [step, hn, looked, Purpose.isFresh, Cache.snapshot, htoken]

/-! ### Calls whose own fetch comes too late -/

end Machine

/-- The generation in which a call looked that fetches a token or has just fetched one. -/
def Phase.generation? : Phase → Option Nat
  | .wanting g => some g
  | .fetching f => some f.generation
  | .fetched t => some t.generation
  | _ => none

/-- A call that looked in generation `g` is still on its way, or is over with `T` or a fault. -/
def Phase.IsLate (T : CachedToken) (g : Nat) (ph : Phase) : Prop :=
  ph.generation? = some g ∨ ∃ r, ph = .ended r ∧ ∀ t, r = .ok t → t = T

namespace Machine

variable {m m' : Machine} {e : Event} {T : CachedToken} {n : Nat}

/-- A call that comes with its own token while `T` is good is over with `T`. -/
theorem call?_step_store {own : CachedToken} (hn : m.call? n = some ⟨.use, .fetched own⟩)
    (hown : own.generation = m.cache.generation) (hT : m.cache.token = some T)
    (hg : m.compares (.store n) = true → T.isExpired m.now = false) :
    (m.step (.store n)).1.call? n = some ⟨.use, .ended (.ok T)⟩ := by
  have hgood := hg (by simp [compares, hn, hown, hT, Purpose.isFresh])
  have hs : m.cache.store m.now Purpose.use.isFresh own = (m.cache, T) :=
    Cache.store_of_good hown hT (by simp [Purpose.isFresh, hgood])
  simp [step, hn, stored, hs]

/-- A late call comes no further than to its own token, and then it finds `T` kept. -/
theorem late_transition {ph : Phase} (hn : m.call? n = some ⟨.use, ph⟩)
    (hp : ph.IsLate T m.cache.generation) (ht : Transition m e m') (hT : m.cache.token = some T)
    (hg : m.compares e = true → T.isExpired m.now = false) :
    ∃ ph', m'.call? n = some ⟨.use, ph'⟩ ∧ ph'.IsLate T m.cache.generation := by
  rcases hp with hgen | ⟨r, rfl, hr⟩
  · obtain ⟨p, ph', hc⟩ := exists_call?_transition ht hn
    rcases call?_transition ht hc with hold | ⟨c, hs⟩
    · cases hn.symm.trans hold
      exact ⟨ph, hc, .inl hgen⟩
    · cases hs with
      | fetch hk =>
        cases hn.symm.trans hk
        exact ⟨_, hc, .inl hgen⟩
      | bring hk hr =>
        cases hn.symm.trans hk
        exact ⟨_, hc, .inl ((congrArg some (generation_receive hr)).trans hgen)⟩
      | fail hk =>
        cases hn.symm.trans hk
        exact ⟨_, hc, .inr ⟨_, rfl, nofun⟩⟩
      | discard hk hne =>
        cases hn.symm.trans hk
        exact absurd (Option.some.inj hgen) hne
      | defer hk _ _ hcur =>
        cases hn.symm.trans hk
        cases hcur.symm.trans hT
        exact ⟨_, hc, .inr ⟨_, rfl, fun t ht => (Except.ok.inj ht).symm⟩⟩
      | keep hk hown hold =>
        cases hn.symm.trans hk
        have hgood := hg (by simp [compares, hn, hown, hT, Purpose.isFresh])
        exact absurd (hold rfl T hT) (by simp [hgood])
      | reuse hk | want hk =>
        cases hn.symm.trans hk
        cases hgen
      | look hk | lookFresh hk | settle hk => cases hn.symm.trans hk
  · exact ⟨_, ended_transition ht hn, .inr ⟨r, rfl, hr⟩⟩

theorem Undisturbed.late {es : List Event} (h : Undisturbed T m es) (hT : m.cache.token = some T)
    {ph : Phase} (hn : m.call? n = some ⟨.use, ph⟩)
    (hp : ph.generation? = some m.cache.generation) :
    ∃ ph', (m.run es).call? n = some ⟨.use, ph'⟩ ∧ ph'.IsLate T m.cache.generation := by
  refine run_induction (P := fun es m' => Undisturbed T m es →
    ∃ ph', m'.call? n = some ⟨.use, ph'⟩ ∧ ph'.IsLate T m.cache.generation)
    (fun _ => ⟨ph, hn, .inl hp⟩) (fun es e m' ih ht h => ?_) es h
  obtain ⟨ph', hn', hp'⟩ := ih h.left
  obtain ⟨htoken, hgen⟩ := h.left.run hT
  rw [← hgen] at hp' ⊢
  exact late_transition hn' hp' ht htoken (h.good _ e (made_concat m es e))

/-- A late call that comes with its own token is over with `T`. -/
theorem Undisturbed.store {before after : List Event} {own : CachedToken}
    (h : Undisturbed T m (before ++ .store n :: after)) (hT : m.cache.token = some T) {ph : Phase}
    (hn : m.call? n = some ⟨.use, ph⟩) (hp : ph.generation? = some m.cache.generation)
    (hown : (m.run before).call? n = some ⟨.use, .fetched own⟩) :
    (m.run (before ++ .store n :: after)).call? n = some ⟨.use, .ended (.ok T)⟩ := by
  obtain ⟨htoken, hgen⟩ := h.left.run hT
  obtain ⟨ph', hn', hp'⟩ := h.left.late hT hn hp
  cases hn'.symm.trans hown
  have hsame : own.generation = (m.run before).cache.generation := by
    rcases hp' with hs | ⟨r, hr, -⟩
    · rw [hgen]
      exact Option.some.inj hs
    · cases hr
  rw [run_append, run_cons]
  exact ended_run (call?_step_store hown hsame htoken (h.good _ _ ⟨before, after, rfl, rfl⟩)) after

/-! ### Refreshes -/

/-- A refresh of the current generation replaces the token, whether or not it is good. -/
theorem refresh_replaces {p : Purpose} {own : CachedToken} (hp : p.isFresh = true)
    (hn : m.call? n = some ⟨p, .fetched own⟩) (hown : own.generation = m.cache.generation) :
    (m.step (.store n)).1.cache = { m.cache with token := some own } ∧
      (m.step (.store n)).1.call? n = some ⟨p, .ended (.ok own)⟩ := by
  have hs : m.cache.store m.now p.isFresh own = ({ m.cache with token := some own }, own) := by
    rw [hp]
    exact Cache.store_fresh hown m.now
  simp only [step, hn, stored, hs, call?_put_self, and_true]
  rfl

/-! ### Agreement -/

/-- Over a stretch `T` stays. A call that looks gets `T` and is over with it once it has judged it,
also behind the stretch if `T` is still good then; a call of the current generation that fetched
already gives out nothing else, and is over with `T` when it comes with its own token. -/
structure Agreed (T : CachedToken) (m : Machine) (stretch : List Event) : Prop where
  kept : ∀ before after, stretch = before ++ after → (m.run before).cache.token = some T
  readers : ∀ n before after later, stretch = before ++ .look n .use :: after →
    (m.run before).call? n = none →
    (∀ m', Made (m.run stretch) later m' (.decide n) → m'.compares (.decide n) = true →
      T.isExpired m'.now = false) →
    HasSeen T n (m.run (stretch ++ later)) ∧
      (.decide n ∈ after ++ later →
        (m.run (stretch ++ later)).call? n = some ⟨.use, .ended (.ok T)⟩)
  late : ∀ n ph, m.call? n = some ⟨.use, ph⟩ → ph.generation? = some m.cache.generation →
    (∀ t, (m.run stretch).result? n = some (.ok t) → t = T) ∧
      ∀ before after own, stretch = before ++ .store n :: after →
        (m.run before).call? n = some ⟨.use, .fetched own⟩ →
        (m.run stretch).call? n = some ⟨.use, .ended (.ok T)⟩

theorem Undisturbed.agreed {stretch : List Event} (h : Undisturbed T m stretch)
    (hT : m.cache.token = some T) : Agreed T m stretch where
  kept := by
    rintro before after rfl
    exact (h.left.run hT).1
  readers := by
    rintro n before after later rfl hn hlater
    have hseen := h.hasSeen hT hn
    have hgood : ∀ m', Made ((m.run before).step (.look n .use)).1 (after ++ later) m' (.decide n) →
        m'.compares (.decide n) = true → T.isExpired m'.now = false := by
      intro m' hm
      rcases made_append hm with hm | hm
      · have hlook : Made (m.run before) (.look n .use :: after) m' (.decide n) :=
          Made.prepend [.look n .use] hm
        exact h.good m' _ (Made.prepend before hlook)
      · refine hlater m' ?_
        simpa only [run_append, run_cons] using hm
    have hrun : m.run (before ++ .look n .use :: after ++ later) =
        ((m.run before).step (.look n .use)).1.run (after ++ later) := by
      simp only [run_append, run_cons]
    rw [hrun]
    exact ⟨hseen.run hgood, hseen.decided hgood⟩
  late := by
    intro n ph hn hp
    refine ⟨fun t ht => ?_, ?_⟩
    · obtain ⟨ph', hn', hp'⟩ := h.late hT hn hp
      obtain ⟨p, hc⟩ := result?_eq_some.mp ht
      rw [hn'] at hc
      rcases hp' with hs | ⟨r, rfl, hr⟩
      · rcases hc with hc | hc <;> cases hc <;> cases hs
      · rcases hc with hc | hc <;> cases hc
        exact hr t rfl
    · rintro before after own rfl hown
      exact h.store hT hn hp hown

/-- **Readers agree on one good token.** In every run a call made to use a token gives out what it
fetched, or a token that was kept when it looked and that it found good, and a token expires its
lifetime after its fetch began. Over a stretch that leaves a kept token alone the calls agree on
it. A refresh of the current generation replaces the kept token, be it good or not. -/
theorem readers_agree (now : Instant) (es : List Event) :
    (∀ n t, ((start now).run es).call? n = some ⟨.use, .ended (.ok t)⟩ →
      (Fetched (start now) es n t ∨ Reused (start now) es n t ∨ Deferred (start now) es n t) ∧
      ∃ k, Fetched (start now) es k t) ∧
    (∀ k t, Fetched (start now) es k t → ∃ started token, BeganFetch (start now) es k started ∧
      Answered (start now) es k token ∧ t.access = token.access ∧
      t.expiresAt = token.lifetime.map started.plus) ∧
    (∀ T stretch, ((start now).run es).cache.token = some T →
      Undisturbed T ((start now).run es) stretch → Agreed T ((start now).run es) stretch) ∧
    (∀ n p own, p.isFresh = true → ((start now).run es).call? n = some ⟨p, .fetched own⟩ →
      own.generation = ((start now).run es).cache.generation →
      Fetched (start now) es n own ∧
      (((start now).run es).step (.store n)).1.cache =
        { ((start now).run es).cache with token := some own } ∧
      (((start now).run es).step (.store n)).1.call? n = some ⟨p, .ended (.ok own)⟩) := by
  have hread := read_run now es
  have hsourced := sourced_run now es
  refine ⟨fun n t hn => ?_, fun k t hk => hk.origin, fun T stretch hT h => h.agreed hT,
    fun n p own hp hn hown => ?_⟩
  · exact ⟨hread n .use _ hn, hsourced.calls n .use _ hn t rfl⟩
  · exact ⟨hsourced.calls n p _ hn, refresh_replaces hp hn hown⟩

/-- Two calls find no token and fetch; the first keeps its token. -/
def twoFetch : List Event :=
  [.look 0 .use, .decide 0, .fetch 0, .look 1 .use, .decide 1, .fetch 1, .receive 0 (.ok early),
    .store 0]

/-- The second call comes late, and a third one looks. -/
def oneLate : List Event := [.look 2 .use, .receive 1 (.ok late), .store 1, .decide 2]

/-- The second and the third call give out what the first one fetched. -/
theorem late_and_third_agree : ∃ t, ((start ⟨0⟩).run twoFetch).result? 0 = some (.ok t) ∧
    ((start ⟨0⟩).run (twoFetch ++ oneLate)).call? 1 = some ⟨.use, .ended (.ok t)⟩ ∧
    ((start ⟨0⟩).run (twoFetch ++ oneLate)).call? 2 = some ⟨.use, .ended (.ok t)⟩ := by
  have hstretch : Undisturbed ⟨.text "early", .text "Bearer", some ⟨60⟩, 0⟩
      ((start ⟨0⟩).run twoFetch) oneLate :=
    .cons rfl rfl nofun (.cons rfl rfl nofun (.cons rfl rfl (fun _ => rfl)
      (.cons rfl rfl (fun _ => rfl) .nil)))
  have hagree := (readers_agree ⟨0⟩ twoFetch).2.2.1 _ oneLate rfl hstretch
  refine ⟨_, rfl, ?late, ?third⟩
  case late =>
    rw [run_append]
    exact (hagree.late 1 (.fetching ⟨0, ⟨0⟩⟩) rfl rfl).2 (oneLate.take 2) (oneLate.drop 3) _ rfl rfl
  case third =>
    rw [run_append]
    refine (hagree.readers 2 [] (oneLate.drop 1) [] rfl rfl ?_).2 (by simp [oneLate])
    rintro m ⟨before, after, h, -⟩
    simp at h

end Machine

end RequestAuth
