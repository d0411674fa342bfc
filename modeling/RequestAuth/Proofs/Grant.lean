import RequestAuth.Proofs.Body
import RequestAuth.Proofs.Tokenless

/-!
# When a client gets a token

A client that lacks nothing, and whose addresses can be taken apart, sends one request whenever it
is asked for a token, and always the same one (`iterate_authenticate_recorded`). It gets a token when
the reply is an answer with a success status whose body describes one. A client that lacks something
sends no request.
-/

namespace RequestAuth

theorem concludeReply_eq_ok {url : String} {reply : Reply} {token : Token} :
    concludeReply url reply = .ok token ↔ ∃ status body, reply = .answer status body ∧
      200 ≤ status ∧ status < 300 ∧
        ∃ entries, Json.read body = .ok (.map entries) ∧ DescribesToken entries token := by
  cases reply with
  | failure reason =>
    constructor
    · rintro ⟨⟩
    · rintro ⟨status, body, ⟨⟩, -⟩
  | answer status body =>
    rw [concludeReply, readAnswer_eq_ok]
    constructor
    · intro h
      exact ⟨status, body, rfl, h⟩
    · rintro ⟨_, _, ⟨⟩, h⟩
      exact h

namespace Client

variable {client : Client} {request : TokenRequest} {σ : Type}

/-- The addresses of a client can be taken apart: that of its endpoint, and that of its base if the
endpoint does not stand for itself. -/
def IsAddressable (client : Client) : Prop :=
  ∀ text, client.tokenEndpoint = some text → ∃ u, Url.split text.toList = .ok u ∧
    (¬ u.IsAbsolute → ∀ place, client.baseUri = some place → ∃ b, Url.split place.toList = .ok b)

theorem exists_url_of_not_lacks (h : ¬ client.Lacks) (haddress : client.IsAddressable) :
    ∃ url, client.url = .ok url := by
  have hendpoint : isFilled client.tokenEndpoint = true := by
    by_contra hunfilled
    exact h (.unaddressed (by simpa using hunfilled))
  obtain ⟨text, htext, hne⟩ := isFilled_iff.mp hendpoint
  obtain ⟨u, hu, hbelow⟩ := haddress text htext
  by_cases habsolute : u.IsAbsolute
  · exact ⟨text, tokenUrl_eq_ok.mpr ⟨text, u, htext, hne, hu, .inl ⟨habsolute, rfl⟩⟩⟩
  · have hbase : isFilled client.baseUri = true := by
      by_contra hunfilled
      have hpath : u.scheme = [] ∨ u.authority = [] := by
        simpa [Url.IsAbsolute, or_iff_not_imp_left] using habsolute
      exact h (.baseless htext hu hpath (by simpa using hunfilled))
    obtain ⟨place, hplace, hplacene⟩ := isFilled_iff.mp hbase
    obtain ⟨b, hb⟩ := hbelow habsolute place hplace
    exact ⟨b.pasted text, tokenUrl_eq_ok.mpr
      ⟨text, u, htext, hne, hu, .inr ⟨habsolute, place, b, hplace, hplacene, hb, rfl⟩⟩⟩

/-- A client that lacks nothing has a request to make. -/
theorem exists_request_of_not_lacks (h : ¬ client.Lacks) (haddress : client.IsAddressable) :
    ∃ request, client.request = .ok request := by
  have hgrant : isFilled client.grantType = true := by
    by_contra hunfilled
    exact h (.ungranted (by simpa using hunfilled))
  obtain ⟨id, hid⟩ := Option.ne_none_iff_exists'.mp fun hnone => h (.nameless hnone)
  obtain ⟨url, hurl⟩ := exists_url_of_not_lacks h haddress
  obtain ⟨request, hrequest, -⟩ := exists_request hgrant hid hurl
  exact ⟨request, hrequest⟩

/-- A call sends the client's request. -/
theorem authenticate_recorded (h : client.request = .ok request) (endpoint : Endpoint σ) (s : σ)
    (sent : List TokenRequest) :
    client.authenticate endpoint.recorded (s, sent) =
      (concludeReply request.url (endpoint request s).1, (endpoint request s).2,
        sent ++ [request]) :=
  authenticate_eq h endpoint.recorded (s, sent)

/-- Calls one after the other send it once each. -/
theorem iterate_authenticate_recorded (h : client.request = .ok request) (endpoint : Endpoint σ)
    (n : Nat) (s : σ) (sent : List TokenRequest) :
    ((fun t => (client.authenticate endpoint.recorded t).2)^[n] (s, sent)).2 =
      sent ++ List.replicate n request := by
  induction n generalizing s sent with
  | zero => simp
  | succ n ih =>
    rw [Function.iterate_succ_apply, authenticate_recorded h, ih, List.append_assoc,
      List.singleton_append, List.replicate_succ]

/-- **A client gets a token when the reply to its request describes one.** A client that lacks
something sends no request, and is told that something is not configured. Any other client whose
addresses can be taken apart sends one request a call, always the same, and gets the token of an
answer with a success status and a body that describes it. There is no token from another status. -/
theorem token_of_described_reply (client : Client) :
    (client.Lacks → ∃ fault, fault.kind = .configurationMissing ∧
      ∀ {σ : Type} (endpoint : Endpoint σ) (s : σ) (sent : List TokenRequest),
        client.authenticate endpoint.recorded (s, sent) = (.error fault, s, sent)) ∧
    (¬ client.Lacks → client.IsAddressable → ∃ request, client.request = .ok request ∧
      ∀ {σ : Type} (endpoint : Endpoint σ) (s : σ) (sent : List TokenRequest),
        (client.authenticate endpoint.recorded (s, sent)).2 =
          ((endpoint request s).2, sent ++ [request]) ∧
        (∀ n, ((fun t => (client.authenticate endpoint.recorded t).2)^[n] (s, sent)).2 =
          sent ++ List.replicate n request) ∧
        ∀ token, (client.authenticate endpoint.recorded (s, sent)).1 = .ok token ↔
          ∃ status body, (endpoint request s).1 = .answer status body ∧
            200 ≤ status ∧ status < 300 ∧
              ∃ entries, Json.read body = .ok (.map entries) ∧ DescribesToken entries token) ∧
    ∀ {σ : Type} (endpoint : Endpoint σ) (s : σ) (token : Token),
      (client.authenticate endpoint s).1 = .ok token → ∃ request status body,
        client.request = .ok request ∧ (endpoint request s).1 = .answer status body ∧
          200 ≤ status ∧ status < 300 := by
  refine ⟨fun hlacks => ?lacks, fun hlacks haddress => ?sends,
    fun endpoint s token htoken => ?status⟩
  case lacks =>
    obtain ⟨fault, hrequest, hkind⟩ := request_of_lacks hlacks
    exact ⟨fault, hkind, fun endpoint s sent => authenticate_of_error hrequest _ _⟩
  case sends =>
    obtain ⟨request, hrequest⟩ := exists_request_of_not_lacks hlacks haddress
    refine ⟨request, hrequest, fun endpoint s sent => ?_⟩
    rw [authenticate_recorded hrequest]
    exact ⟨rfl, fun n => iterate_authenticate_recorded hrequest endpoint n s sent,
      fun token => concludeReply_eq_ok⟩
  case status =>
    cases hrequest : client.request with
    | error fault =>
      rw [authenticate_of_error hrequest] at htoken
      cases htoken
    | ok request =>
      rw [authenticate_eq hrequest] at htoken
      obtain ⟨status, body, hreply, hlow, hhigh, -⟩ := concludeReply_eq_ok.mp htoken
      exact ⟨request, status, body, rfl, hreply, hlow, hhigh⟩

end Client

/-! ### A lifetime that is spelled out -/

/-- A client whose endpoint is a path below its base. -/
def pathClient : Client :=
  ⟨some "token", some "c", none, some "client_credentials", some "http://t/v1?x", none, none,
    .int 30⟩

/-- A body whose lifetime is a text with blanks, a sign and an underscore. -/
def spelledBody : String := "\x7b\"access_token\":\"T\",\"expires_in\":\" +3_600 \"\x7d"

/-- The entries of this body. -/
def spelledEntries : List (Value × Value) :=
  textEntries [("access_token", "T"), ("expires_in", " +3_600 ")]

/-- An endpoint that gives this answer. -/
def spelledEndpoint : Endpoint Unit := fun _ s => (.answer 201 spelledBody, s)

theorem describesToken_spelledEntries :
    DescribesToken spelledEntries
      ⟨.text "T", .text "Bearer", some 3600, .map spelledEntries⟩ := by
  have hspells : Text.Spells " +3_600 ".toList 3600 := Text.readInt?_eq_some.mp (by decide)
  exact .token rfl rfl (.limited (.text hspells))

/-- The client gets a token for an hour each time it asks for one, and sends its request each time.
Without a name it sends none. -/
theorem spelled_lifetime_granted :
    ¬ pathClient.Lacks ∧ pathClient.IsAddressable ∧
      (∃ request, pathClient.request = .ok request ∧
        (pathClient.authenticate spelledEndpoint.recorded ((), [])).1 =
          .ok ⟨.text "T", .text "Bearer", some 3600, .map spelledEntries⟩ ∧
        ((fun t => (pathClient.authenticate spelledEndpoint.recorded t).2)^[2] ((), [])).2 =
          [request, request]) ∧
      Client.Lacks { pathClient with clientId := none } ∧
        ∃ fault, fault.kind = .configurationMissing ∧
          Client.authenticate { pathClient with clientId := none } spelledEndpoint.recorded
            ((), []) = (.error fault, (), []) := by
  have hreads : Json.read spelledBody = .ok (.map spelledEntries) :=
    eq_map_textEntries (by decide +kernel)
  have hlacks : ¬ pathClient.Lacks := by
    rintro (h | h | h | ⟨-, -, -, h⟩)
    all_goals cases h
  have haddress : pathClient.IsAddressable := by
    rintro text ⟨⟩
    refine ⟨_, rfl, ?_⟩
    rintro - place ⟨⟩
    exact ⟨_, rfl⟩
  have hnameless : Client.Lacks { pathClient with clientId := none } := .nameless rfl
  obtain ⟨-, hsends, -⟩ := Client.token_of_described_reply pathClient
  obtain ⟨hnothing, -, -⟩ := Client.token_of_described_reply { pathClient with clientId := none }
  obtain ⟨request, hrequest, hcalls⟩ := hsends hlacks haddress
  obtain ⟨-, hsent, htoken⟩ := hcalls spelledEndpoint () []
  obtain ⟨fault, hkind, hfault⟩ := hnothing hnameless
  refine ⟨hlacks, haddress, ⟨request, hrequest, ?_, hsent 2⟩, hnameless, fault, hkind,
    hfault spelledEndpoint () []⟩
  exact (htoken _).mpr
    ⟨201, spelledBody, rfl, by decide, by decide, spelledEntries, hreads,
      describesToken_spelledEntries⟩

end RequestAuth
