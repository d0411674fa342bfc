import RequestAuth.Token.Cache

/-!
# Calls that interleave

Several callers share a cache and a clock. Each call goes through phases, and between any two steps
of one call any steps of others may happen: an event says which step happens next. The events of one
call in a row do what `Cache.obtain` does.

A call whose turn it is not is left as it is, and a number that is taken begins no new call.
-/

namespace RequestAuth

/-- What a call is made for. -/
inductive Purpose where
  /-- To use a token, the one that is kept if it is good. -/
  | use
  /-- To replace the token that is kept. -/
  | refresh
  /-- To renew the token in the background. -/
  | renew
  deriving DecidableEq

/-- Whether a call does not take the token that is kept. -/
def Purpose.isFresh (p : Purpose) : Bool := p != .use

/-- How far a call has come. -/
inductive Phase where
  /-- It has looked at the cache for a token. -/
  | looked (seen : Snapshot)
  /-- It needs a fetched token and looked at the cache in a generation. -/
  | wanting (generation : Nat)
  /-- It is fetching a token. -/
  | fetching (fetch : Fetch)
  /-- It has fetched a token, which is not kept yet. -/
  | fetched (token : CachedToken)
  /-- It is over. -/
  | ended (result : Except Fault CachedToken)
  /-- It is over, and its end has been counted. -/
  | settled (result : Except Fault CachedToken)

/-- A call. -/
structure Call where
  /-- What it is made for. -/
  purpose : Purpose
  /-- How far it has come. -/
  phase : Phase

/-- The cache, the clock and the calls, by number. -/
structure Machine where
  /-- The cache that the calls share. -/
  cache : Cache
  /-- The clock. -/
  now : Instant
  /-- The calls, the latest first. -/
  calls : List (Nat × Call)

/-- A step. -/
inductive Event where
  /-- A new call looks at the cache. -/
  | look (call : Nat) (purpose : Purpose)
  /-- A call reads the clock to see whether the token it saw can be used. -/
  | decide (call : Nat)
  /-- A call reads the clock and begins to fetch. -/
  | fetch (call : Nat)
  /-- The fetch of a call ends. -/
  | receive (call : Nat) (reply : Except Fault Token)
  /-- A call keeps the token that it fetched. -/
  | store (call : Nat)
  /-- The end of a call made for renewal is counted. -/
  | settle (call : Nat)
  /-- The token is dropped. -/
  | invalidate
  /-- The status of a reply to a request is observed. -/
  | observe (status : Value)
  /-- The clock is moved. -/
  | advance (seconds : Int)
  /-- Renewal is started. -/
  | startRenewal (interval : Value)
  /-- Renewal is cancelled. -/
  | cancelRenewal
  /-- The scheduler is stopped. -/
  | shutdown

namespace Machine

/-- The machine before the first step. -/
def start (now : Instant) : Machine := ⟨.empty, now, []⟩

/-- The call of a number. -/
def call? (m : Machine) (n : Nat) : Option Call := m.calls.lookup n

/-- The machine with a call at a phase. -/
def put (m : Machine) (n : Nat) (purpose : Purpose) (phase : Phase) : Machine :=
  { m with calls := putEntry n ⟨purpose, phase⟩ m.calls }

/-- What a new call does when it looks at the cache. -/
def looked (m : Machine) (n : Nat) (purpose : Purpose) : Machine :=
  m.put n purpose
    (if purpose.isFresh then .wanting m.cache.generation else .looked m.cache.snapshot)

/-- What a call does when it reads the clock for the token that it saw. -/
def decided (m : Machine) (n : Nat) (purpose : Purpose) (seen : Snapshot) : Machine :=
  match seen.usable? m.now with
  | some t => m.put n purpose (.ended (.ok t))
  | none => m.put n purpose (.wanting seen.generation)

/-- What a call does when its fetch ends. -/
def received (m : Machine) (n : Nat) (purpose : Purpose) (fetch : Fetch)
    (reply : Except Fault Token) : Machine :=
  match reply >>= fetch.receive with
  | .ok t => m.put n purpose (.fetched t)
  | .error fault => m.put n purpose (.ended (.error fault))

/-- What a call does when it keeps its token. -/
def stored (m : Machine) (n : Nat) (purpose : Purpose) (fetched : CachedToken) : Machine :=
  let (cache, t) := m.cache.store m.now purpose.isFresh fetched
  { m with cache }.put n purpose (.ended (.ok t))

/-- The machine after a step, and the notices. -/
def step (m : Machine) : Event → Machine × List Notice
  | .look n purpose => (if (m.call? n).isSome then m else m.looked n purpose, [])
  | .decide n =>
    match m.call? n with
    | some ⟨purpose, .looked seen⟩ => (m.decided n purpose seen, [])
    | _ => (m, [])
  | .fetch n =>
    match m.call? n with
    | some ⟨purpose, .wanting generation⟩ => (m.put n purpose (.fetching ⟨generation, m.now⟩), [])
    | _ => (m, [])
  | .receive n reply =>
    match m.call? n with
    | some ⟨purpose, .fetching fetch⟩ => (m.received n purpose fetch reply, [])
    | _ => (m, [])
  | .store n =>
    match m.call? n with
    | some ⟨purpose, .fetched t⟩ => (m.stored n purpose t, [])
    | _ => (m, [])
  | .settle n =>
    match m.call? n with
    | some ⟨.renew, .ended result⟩ =>
      let (cache, notices) := m.cache.settle result
      ({ m with cache }.put n .renew (.settled result), notices)
    | _ => (m, [])
  | .invalidate => ({ m with cache := m.cache.invalidate }, [])
  | .observe status => ({ m with cache := m.cache.observe status }, [])
  | .advance seconds => ({ m with now := m.now.plus seconds }, [])
  | .startRenewal interval => ({ m with cache := m.cache.startRenewal interval }, [])
  | .cancelRenewal => ({ m with cache := m.cache.cancelRenewal }, [])
  | .shutdown => ({ m with cache := m.cache.shutdown }, [])

/-- The machine after some steps. -/
def run (m : Machine) (events : List Event) : Machine := events.foldl (fun m e => (m.step e).1) m

/-- What came of a call that is over. -/
def result? (m : Machine) (n : Nat) : Option (Except Fault CachedToken) :=
  match m.call? n with
  | some ⟨_, .ended result⟩ => some result
  | some ⟨_, .settled result⟩ => some result
  | _ => none

/-- Whether a call is fetching. -/
def isFetching (m : Machine) (n : Nat) : Bool :=
  match m.call? n with
  | some ⟨_, .fetching _⟩ => true
  | _ => false

end Machine

end RequestAuth
