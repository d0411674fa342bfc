import RequestAuth.Proofs.Machine.Transition

/-!
# What a run tells about its tokens

Where in a run a call begins, how often the token was dropped before that, and which call fetched a
token. `Sourced` says that every token in the machine was fetched by some call, and `Dated` that the
generation of a token counts the drops before its call began.
-/

namespace RequestAuth

namespace Machine

/-! ### Places in a run -/

/-- The place of the step with which a call begins, which takes the number. -/
def began (es : List Event) (n : Nat) : Nat := es.findIdx (Event.begins n)

/-- The drops before a call began. -/
def dateOf (es : List Event) (n : Nat) : Nat := (es.take (began es n)).countP Event.drops

/-- The step at a place drops the token. -/
def DropsAt (es : List Event) (i : Nat) : Prop := ∃ e, es[i]? = some e ∧ e.drops = true

theorem began_append {es : List Event} {n : Nat} (h : began es n < es.length)
    (later : List Event) : began (es ++ later) n = began es n := by
  unfold began at h ⊢
  rw [List.findIdx_append, if_pos h]

theorem dateOf_append {es : List Event} {n : Nat} (h : began es n < es.length)
    (later : List Event) : dateOf (es ++ later) n = dateOf es n := by
  unfold dateOf
  rw [began_append h, List.take_append_of_le_length (Nat.le_of_lt h)]

/-- A call that begins now has all drops so far before it. -/
theorem dateOf_look {es : List Event} {n : Nat} (h : es.any (Event.begins n) = false)
    (p : Purpose) : dateOf (es ++ [.look n p]) n = es.countP Event.drops := by
  have hl : es.findIdx (Event.begins n) = es.length :=
    List.findIdx_eq_length.mpr (by simpa using h)
  have hb : began (es ++ [.look n p]) n = es.length := by
    rw [began, List.findIdx_append, hl, if_neg (Nat.lt_irrefl _)]
    simp [List.findIdx_cons, Event.begins]
  rw [dateOf, hb, List.take_left]

/-- More drops lie before a place behind a drop than before a place at or ahead of it. -/
theorem countP_take_lt {es : List Event} {i a b : Nat} (hi : DropsAt es i) (ha : i < a)
    (hb : b ≤ i) : (es.take b).countP Event.drops < (es.take a).countP Event.drops := by
  obtain ⟨e, he, hd⟩ := hi
  calc (es.take b).countP Event.drops
      ≤ (es.take i).countP Event.drops := (List.take_sublist_take_left hb).countP_le
    _ < (es.take (i + 1)).countP Event.drops := by
      rw [List.take_add_one, he]
      simp [hd]
    _ ≤ (es.take a).countP Event.drops := (List.take_sublist_take_left ha).countP_le

theorem lt_began_of_dateOf_eq {es : List Event} {n k i : Nat} (h : dateOf es n = dateOf es k)
    (hi : DropsAt es i) (hn : i < began es n) : i < began es k := by
  by_contra hk
  have := countP_take_lt hi hn (Nat.not_lt.mp hk)
  unfold dateOf at h
  omega

/-- Of two calls with the same drops before them, each drop lies before both or before none. -/
theorem lt_began_iff {es : List Event} {n k i : Nat} (h : dateOf es n = dateOf es k)
    (hi : DropsAt es i) : i < began es n ↔ i < began es k :=
  ⟨lt_began_of_dateOf_eq h hi, lt_began_of_dateOf_eq h.symm hi⟩

theorem DropsAt.dateOf_lt {es : List Event} {i k : Nat} (hi : DropsAt es i) (hk : began es k ≤ i) :
    dateOf es k < es.countP Event.drops := by
  have hlt : i < es.length := by
    obtain ⟨e, he, -⟩ := hi
    exact (List.getElem?_eq_some_iff.mp he).1
  have := countP_take_lt hi hlt hk
  rwa [List.take_length] at this

/-- The numbers that are taken are those of the calls that began. -/
theorem isSome_call?_run (now : Instant) (es : List Event) :
    ∀ n, (((start now).run es).call? n).isSome = es.any (Event.begins n) := by
  refine run_induction (P := fun es m => ∀ n, (m.call? n).isSome = es.any (Event.begins n))
    (fun _ => rfl) (fun es e m' h ht n => ?_) es
  rw [isSome_call?_transition ht, h n]
  simp

theorem began_lt_length {now : Instant} {es : List Event} {n : Nat} {c : Call}
    (h : ((start now).run es).call? n = some c) : began es n < es.length := by
  have := isSome_call?_run now es n
  rw [h] at this
  exact List.findIdx_lt_length.mpr (by simpa using this.symm)

/-! ### Where tokens come from -/

/-- In a run from `m₀` the fetch of a call brings a token. -/
def Fetched (m₀ : Machine) (es : List Event) (n : Nat) (t : CachedToken) : Prop :=
  ∃ m p f reply, Made m₀ es m (.receive n reply) ∧ m.call? n = some ⟨p, .fetching f⟩ ∧
    reply >>= f.receive = .ok t

theorem Fetched.append {m₀ : Machine} {es : List Event} {n : Nat} {t : CachedToken}
    (h : Fetched m₀ es n t) (later : List Event) : Fetched m₀ (es ++ later) n t := by
  obtain ⟨m, p, f, reply, hm, hf, ht⟩ := h
  exact ⟨m, p, f, reply, hm.append later, hf, ht⟩

end Machine

/-- The tokens that a call holds were fetched, and what it fetched was fetched by itself. -/
def Phase.IsSourced (fetched : Nat → CachedToken → Prop) (n : Nat) : Phase → Prop
  | .looked seen => ∀ t, seen.token = some t → ∃ k, fetched k t
  | .wanting _ | .fetching _ => True
  | .fetched t => fetched n t
  | .ended r | .settled r => ∀ t, r = .ok t → ∃ k, fetched k t

theorem Phase.IsSourced.mono {f g : Nat → CachedToken → Prop} {n : Nat} {ph : Phase}
    (h : ph.IsSourced f n) (hfg : ∀ k t, f k t → g k t) : ph.IsSourced g n := by
  cases ph with
  | looked seen => exact fun t ht => (h t ht).imp fun k => hfg k t
  | wanting k => trivial
  | fetching f => trivial
  | fetched t => exact hfg n t h
  | ended r => exact fun t ht => (h t ht).imp fun k => hfg k t
  | settled r => exact fun t ht => (h t ht).imp fun k => hfg k t

namespace Machine

/-- Every token was fetched by some call. -/
structure Sourced (m₀ : Machine) (es : List Event) (m : Machine) : Prop where
  token : ∀ t, m.cache.token = some t → ∃ k, Fetched m₀ es k t
  calls : ∀ n p ph, m.call? n = some ⟨p, ph⟩ → ph.IsSourced (Fetched m₀ es) n

theorem Sourced.step {m₀ m' : Machine} {es : List Event} {e : Event}
    (h : Sourced m₀ es (m₀.run es)) (ht : Transition (m₀.run es) e m') :
    Sourced m₀ (es ++ [e]) m' := by
  have hkept {t : CachedToken} (hc : (m₀.run es).cache.token = some t) :
      ∃ k, Fetched m₀ (es ++ [e]) k t := (h.token t hc).imp fun _ hk => hk.append [e]
  refine ⟨fun t hc => ?_, fun n p ph hn => ?_⟩
  · rcases token_transition ht hc with ⟨hc, -⟩ | ⟨n, p, -, hn, -⟩
    · exact hkept hc
    · exact ⟨n, Fetched.append (h.calls n p _ hn) [e]⟩
  · rcases call?_transition ht hn with hn | ⟨c, hs⟩
    · exact (h.calls n p ph hn).mono fun _ _ hk => hk.append [e]
    · clear hn
      cases hs with
      | look => exact fun t hc => hkept hc
      | reuse hn hs =>
        intro u hu
        cases hu
        exact (h.calls n p _ hn _ hs).imp fun _ hk => hk.append _
      | bring hn hr => exact ⟨_, p, _, _, made_concat m₀ es _, hn, hr⟩
      | discard hn | keep hn =>
        intro u hu
        cases hu
        exact ⟨n, Fetched.append (h.calls n p _ hn) _⟩
      | defer _ _ _ hc =>
        intro u hu
        cases hu
        exact hkept hc
      | settle hn => exact fun t hr => (h.calls n .renew _ hn t hr).imp fun _ hk => hk.append _
      | fail => exact nofun
      | _ => trivial

theorem sourced_run (now : Instant) (es : List Event) :
    Sourced (start now) es ((start now).run es) :=
  run_induction ⟨nofun, nofun⟩ (fun _ _ _ h ht => h.step ht) es

theorem Sourced.result {m₀ m : Machine} {es : List Event} (h : Sourced m₀ es m) {n : Nat}
    {t : CachedToken} (hr : m.result? n = some (.ok t)) : ∃ k, Fetched m₀ es k t := by
  obtain ⟨p, hn | hn⟩ := result?_eq_some.mp hr
  · exact h.calls n p _ hn t rfl
  · exact h.calls n p _ hn t rfl

end Machine

/-! ### What generations count -/

/-- What is known of a call that came so far, `g` drops having been made before it began. -/
def Phase.IsDated (g : Nat) : Phase → Prop
  | .looked seen => seen.generation = g ∧ ∀ t, seen.token = some t → t.generation = g
  | .wanting k => k = g
  | .fetching f => f.generation = g
  | .fetched t => t.generation = g
  | .ended r | .settled r => ∀ t, r = .ok t → t.generation = g

namespace Machine

/-- Generations count drops: that of the cache all of them, that of a call those before it began. -/
structure Dated (es : List Event) (m : Machine) : Prop where
  generation : m.cache.generation = es.countP Event.drops
  token : ∀ t, m.cache.token = some t → t.generation = m.cache.generation
  calls : ∀ n p ph, m.call? n = some ⟨p, ph⟩ → ph.IsDated (dateOf es n)

/-- A call keeps to the drops before it began, whatever step it makes. -/
theorem Dated.callStep {now : Instant} {es : List Event} (h : Dated es ((start now).run es))
    {e : Event} {n : Nat} {p : Purpose} {ph : Phase} {c : Cache}
    (hs : CallStep ((start now).run es) e n p ph c) : ph.IsDated (dateOf (es ++ [e]) n) := by
  have hold {q : Purpose} {ph₀ : Phase} (hn : ((start now).run es).call? n = some ⟨q, ph₀⟩) :
      ph₀.IsDated (dateOf (es ++ [e]) n) := by
    rw [dateOf_append (began_lt_length hn)]
    exact h.calls n q ph₀ hn
  have hnew (hn : ((start now).run es).call? n = none) (p : Purpose) :
      ((start now).run es).cache.generation = dateOf (es ++ [.look n p]) n := by
    rw [h.generation, dateOf_look]
    rw [← isSome_call?_run now, hn, Option.isSome_none]
  cases hs with
  | look hn =>
    rw [← hnew hn]
    exact ⟨rfl, h.token⟩
  | lookFresh hn => exact hnew hn p
  | reuse hn hs =>
    intro u hu
    cases hu
    exact (hold hn).2 _ hs
  | want hn => exact (hold hn).1
  | fetch hn =>
    have hg := hold hn
    exact hg
  | bring hn hr => exact (generation_receive hr).trans (hold hn)
  | fail => exact nofun
  | discard hn | keep hn =>
    intro u hu
    cases hu
    exact hold hn
  | defer hn hg _ hc =>
    intro u hu
    cases hu
    rw [h.token _ hc, ← hg]
    exact hold hn
  | settle hn =>
    have hr := hold hn
    exact hr

theorem Dated.step {now : Instant} {m' : Machine} {es : List Event} {e : Event}
    (h : Dated es ((start now).run es)) (ht : Transition ((start now).run es) e m') :
    Dated (es ++ [e]) m' := by
  have hg := generation_transition ht
  refine ⟨?_, fun t hc => ?_, fun n p ph hn => ?_⟩
  · rw [hg, h.generation, List.countP_append, List.countP_singleton]
    cases e.drops <;> rfl
  · rcases token_transition ht hc with ⟨hc, hd⟩ | ⟨n, p, rfl, -, hn⟩
    · rw [hg, hd]
      exact h.token t hc
    · rw [hg]
      exact hn
  · rcases call?_transition ht hn with hn | ⟨c, hs⟩
    · rw [dateOf_append (began_lt_length hn)]
      exact h.calls n p ph hn
    · exact h.callStep hs

theorem dated_run (now : Instant) (es : List Event) : Dated es ((start now).run es) :=
  run_induction ⟨rfl, nofun, nofun⟩ (fun _ _ _ h ht => h.step ht) es

theorem Dated.result {m : Machine} {es : List Event} (h : Dated es m) {n : Nat} {t : CachedToken}
    (hr : m.result? n = some (.ok t)) : t.generation = dateOf es n := by
  obtain ⟨p, hn | hn⟩ := result?_eq_some.mp hr
  · exact h.calls n p _ hn t rfl
  · exact h.calls n p _ hn t rfl

theorem Fetched.generation_eq {now : Instant} {es : List Event} {k : Nat} {t : CachedToken}
    (h : Fetched (start now) es k t) : t.generation = dateOf es k := by
  obtain ⟨m, p, f, reply, ⟨before, after, rfl, rfl⟩, hf, ht⟩ := h
  rw [dateOf_append (began_lt_length hf), generation_receive ht]
  exact (dated_run now before).calls k p _ hf

/-! ### Tokens for concrete runs -/

/-- A token for a minute. -/
def early : Token := ⟨.text "early", .text "Bearer", some 60, .null⟩

/-- A token without end. -/
def late : Token := ⟨.text "late", .text "Bearer", none, .null⟩

end Machine

end RequestAuth
