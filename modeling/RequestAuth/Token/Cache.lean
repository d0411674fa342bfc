import RequestAuth.Token
import RequestAuth.Notice

/-!
# The token cache

At most one token is kept, with the instant at which it expires. Whoever needs a token takes the one
that is kept, or fetches one and keeps it; dropping the token counts up a generation, and a fetch
that began in an earlier generation is not kept.

Several callers may be on their way at once, so every step that is made without interruption is a
function of its own: the look at the cache (`snapshot`), the reading of the clock that decides
whether the token can be used (`usable?`), the one at which a fetch begins, the end of a fetch
(`Fetch.receive`) and the keeping of its result (`store`). `obtain` is all of them in a row.
`RequestAuth.Token.Machine` interleaves them.

A scheduler renews the token at intervals and gives up after five failures in a row.
-/

namespace RequestAuth

/-- A token that was fetched. -/
structure CachedToken where
  /-- The access token. -/
  access : Value
  /-- Its type. -/
  type : Value
  /-- The instant from which on it cannot be used, if there is one. -/
  expiresAt : Option Instant
  /-- The generation in which its fetch began. -/
  generation : Nat

/-- Whether a token cannot be used at an instant. -/
def CachedToken.isExpired (t : CachedToken) (now : Instant) : Bool :=
  match t.expiresAt with
  | none => false
  | some e => e.seconds ≤ now.seconds

/-- The scheduler of renewals. -/
structure Renewal where
  /-- Whether the scheduler runs. -/
  isRunning : Bool
  /-- The minutes between two renewals, if the token is renewed. -/
  interval : Option Value
  /-- The failures since the last success or start. -/
  failures : Nat

/-- A cache. -/
structure Cache where
  /-- The token that is kept. -/
  token : Option CachedToken
  /-- The number of times that the token was dropped. -/
  generation : Nat
  /-- The renewal of the token. -/
  renewal : Renewal

/-- The failures in a row after which renewal is given up. -/
def maxFailures : Nat := 5

/-- The status of a reply to a request whose credentials are not accepted. -/
def unauthorized : Int := 401

/-! ### Expiry -/

/-- The most days that a span of time may have. -/
def maxSpanDays : Int := 999999999

/-- The instant at which a token fetched at `started` expires. It has to lie in the years 1 to 9999,
and the span until then must not be too long. -/
def expiry (started : Instant) (lifetime : Int) : Except Fault Instant :=
  let days := lifetime.fdiv 86400
  if days < -2147483648 ∨ 2147483647 < days then
    .error (.outOfRange "Python int too large to convert to C int")
  else if days < -maxSpanDays ∨ maxSpanDays < days then
    .error (.outOfRange s!"days={days}; must have magnitude <= {maxSpanDays}")
  else
    let e := started.plus lifetime
    if e.isRepresentable then .ok e else .error (.outOfRange "date value out of range")

/-! ### The steps of a call -/

/-- What a caller saw of the cache. -/
structure Snapshot where
  /-- The token that was kept. -/
  token : Option CachedToken
  /-- The generation. -/
  generation : Nat

/-- A fetch that is on its way. -/
structure Fetch where
  /-- The generation in which it began. -/
  generation : Nat
  /-- The instant at which it began. -/
  started : Instant

namespace Cache

/-- The empty cache, its token not renewed. -/
def empty : Cache := ⟨none, 0, ⟨false, none, 0⟩⟩

/-- What a caller sees of the cache. -/
def snapshot (c : Cache) : Snapshot := ⟨c.token, c.generation⟩

/-- Drop the token. -/
def invalidate (c : Cache) : Cache := { c with token := none, generation := c.generation + 1 }

/-- Drop the token when a status says that it is not accepted. -/
def observe (c : Cache) (status : Value) : Cache :=
  if status == .int unauthorized then c.invalidate else c

/-- Keep a fetched token, and give the caller the one to use. A token of an earlier generation is
given but not kept; one that is still good is given instead of the fetched one, unless that is to
replace it. -/
def store (c : Cache) (now : Instant) (replaceValid : Bool) (fetched : CachedToken) :
    Cache × CachedToken :=
  if fetched.generation ≠ c.generation then (c, fetched)
  else
    match c.token with
    | some current =>
      if !replaceValid && !current.isExpired now then (c, current)
      else ({ c with token := some fetched }, fetched)
    | none => ({ c with token := some fetched }, fetched)

end Cache

/-- The token that was seen, if it can be used. -/
def Snapshot.usable? (s : Snapshot) (now : Instant) : Option CachedToken :=
  s.token.filter fun t => !t.isExpired now

/-- The token that a fetch brought. -/
def Fetch.receive (f : Fetch) (token : Token) : Except Fault CachedToken := do
  let expiresAt ← match token.lifetime with
    | none => pure none
    | some n => (expiry f.started n).map some
  return ⟨token.access, token.type, expiresAt, f.generation⟩

/-! ### Whole calls -/

/-- A source of tokens with a state of its own. -/
abbrev TokenSource (σ : Type) := σ → Except Fault Token × σ

namespace Cache

/-- Obtain a token without interruption: the one that is kept, unless it has expired or a `fresh`
one is asked for, or else one from the source. A fault leaves the cache as it is. -/
def obtain {σ : Type} (c : Cache) (source : TokenSource σ) (fresh : Bool) (now : Instant) (s : σ) :
    Except Fault CachedToken × Cache × σ :=
  match if fresh then none else c.snapshot.usable? now with
  | some t => (.ok t, c, s)
  | none =>
    let fetch : Fetch := ⟨c.snapshot.generation, now⟩
    let (reply, s) := source s
    match reply >>= fetch.receive with
    | .error fault => (.error fault, c, s)
    | .ok fetched =>
      let (c, t) := c.store now fresh fetched
      (.ok t, c, s)

/-! ### Renewal -/

/-- Renew the token at an interval from now on. -/
def startRenewal (c : Cache) (interval : Value) : Cache :=
  { c with renewal := ⟨true, some interval, 0⟩ }

/-- Do not renew the token any more. -/
def cancelRenewal (c : Cache) : Cache :=
  { c with renewal := { c.renewal with interval := none } }

/-- Whether the token is renewed. -/
def isRenewalActive (c : Cache) : Bool := c.renewal.interval.isSome

/-- Stop the scheduler, if it runs, and all that it was to do. -/
def shutdown (c : Cache) : Cache :=
  if c.renewal.isRunning then
    { c with renewal := { c.renewal with isRunning := false, interval := none } }
  else c

/-- Whether the scheduler would renew the token when the time comes. -/
def isDue (c : Cache) : Bool := c.renewal.isRunning && c.isRenewalActive

/-- Count how a renewal ended, and give up after too many failures in a row. -/
def settle (c : Cache) (result : Except Fault CachedToken) : Cache × List Notice :=
  match result with
  | .ok _ => ({ c with renewal := { c.renewal with failures := 0 } }, [])
  | .error fault =>
    let failures := c.renewal.failures + 1
    let c := { c with renewal := { c.renewal with failures } }
    let reason := fault.message
    if maxFailures ≤ failures then
      let text := s!"Token renewal disabled after {failures} failures: {reason}"
      (c.cancelRenewal, [⟨.error, [.text text]⟩])
    else
      let text := s!"Token renewal failed (attempt {failures}): {reason}"
      (c, [⟨.error, [.text text]⟩])

/-- Renew the token without interruption. -/
def renew {σ : Type} (c : Cache) (source : TokenSource σ) (now : Instant) (s : σ) :
    List Notice × Cache × σ :=
  let (result, c, s) := c.obtain source true now s
  let (c, notices) := c.settle result
  (notices, c, s)

end Cache

end RequestAuth
