import RequestAuth.Authenticator
import RequestAuth.Proofs.Cache
import RequestAuth.Proofs.Member

/-!
# Answers of a token endpoint

A client that is fully configured asks the endpoint whenever the cache has no usable token, and what
comes of it is a token or a fault of the endpoint, but for answers that go astray (`Stray`): a body
with too many collections inside one another, and a lifetime that is infinite or leads out of the
calendar.
-/

namespace RequestAuth

theorem isTokenFault_invalidAnswer (reason : String) (status : Option Int) :
    (invalidAnswer reason status).isTokenFault = true := rfl

/-! ### Lifetimes -/

/-- Seconds that cannot be read are refused, but for those of an infinite double. -/
theorem readSeconds_eq_error {v : Value} {fault : Fault} (h : readSeconds v = .error fault) :
    fault.isTokenFault = true ∨ ∃ x, v = .float x ∧ x.isInf = true ∧ fault.kind = .range := by
  cases v with
  | float x =>
    unfold readSeconds at h
    dsimp only at h
    split at h
    · rename_i hx
      cases h
      exact .inr ⟨x, rfl, hx, rfl⟩
    · cases h
  | text s =>
    unfold readSeconds at h
    dsimp only at h
    split at h
    · cases h
    · cases h
      exact .inl (isTokenFault_invalidAnswer _ _)
  | bool | int => cases h
  | _ =>
    cases h
    exact .inl (isTokenFault_invalidAnswer _ _)

@[simp] theorem Instant.seconds_plus (t : Instant) (n : Int) :
    (t.plus n).seconds = t.seconds + n := rfl

theorem Instant.isRepresentable_iff {t : Instant} :
    t.isRepresentable = true ↔ 0 ≤ t.seconds ∧ t.seconds < 3652059 * 86400 := by
  unfold isRepresentable endOfTime
  rw [Bool.and_eq_true, decide_eq_true_iff, decide_eq_true_iff]

/-- A lifetime that begins within the calendar leads to an instant if it ends there too. -/
theorem expiry_eq_ok {started : Instant} {lifetime : Int} (h : started.isRepresentable = true)
    (he : (started.plus lifetime).isRepresentable = true) :
    expiry started lifetime = .ok (started.plus lifetime) := by
  have hdays : lifetime.fdiv 86400 = lifetime / 86400 := Int.fdiv_eq_ediv_of_nonneg _ (by decide)
  -- the calendar is much shorter than the spans that are too long
  have hspan : ¬ (lifetime / 86400 < -2147483648 ∨ 2147483647 < lifetime / 86400) ∧
      ¬ (lifetime / 86400 < -maxSpanDays ∨ maxSpanDays < lifetime / 86400) := by
    have hstart := Instant.isRepresentable_iff.mp h
    have hend := Instant.isRepresentable_iff.mp he
    rw [Instant.seconds_plus] at hend
    unfold maxSpanDays
    omega
  unfold expiry
  dsimp only
  rw [hdays, if_neg hspan.1, if_neg hspan.2, if_pos he]

theorem expiry_eq_error {started : Instant} {lifetime : Int}
    (he : (started.plus lifetime).isRepresentable = false) :
    ∃ detail, expiry started lifetime = .error (.outOfRange detail) := by
  unfold expiry
  dsimp only
  split
  · exact ⟨_, rfl⟩
  · split
    · exact ⟨_, rfl⟩
    · rw [he]
      exact ⟨_, rfl⟩

theorem kind_of_expiry {started : Instant} {lifetime : Int} {fault : Fault}
    (h : expiry started lifetime = .error fault) : fault.kind = .range := by
  unfold expiry at h
  dsimp only at h
  split at h
  · cases h
    rfl
  · split at h
    · cases h
      rfl
    · split at h
      · cases h
      · cases h
        rfl

/-! ### Tokens in answers -/

/-- The lifetime that a value gives, none for null. -/
def readLifetime : Value → Except Fault (Option Int)
  | .null => .ok none
  | v => (readSeconds v).map some

/-- An object with an access token is read as a token if its lifetime is. -/
theorem Token.read_eq {data access lifetime type : Value}
    (ha : data.member "access_token" = .ok access) (hl : data.member "expires_in" = .ok lifetime)
    (ht : data.memberOr "token_type" (.text "Bearer") = .ok type) :
    Token.read data =
      if access.isTrue then (readLifetime lifetime).map fun n => ⟨access, type, n, data⟩
      else .error (invalidAnswer "Token endpoint response has no access_token" none) := by
  unfold Token.read
  rw [ha, hl, ht]
  dsimp only [bind, Except.bind]
  cases access.isTrue with
  | false => rfl
  | true =>
    cases lifetime with
    | null => rfl
    | _ =>
      unfold readLifetime
      dsimp only
      generalize readSeconds _ = seconds
      cases seconds with
      | error fault => rfl
      | ok n => rfl

theorem readLifetime_eq_error {v : Value} {fault : Fault} (h : readLifetime v = .error fault) :
    fault.isTokenFault = true ∨ ∃ x, v = .float x ∧ x.isInf = true ∧ fault.kind = .range := by
  have hseconds : readSeconds v = .error fault := by
    unfold readLifetime at h
    split at h
    · cases h
    · cases hs : readSeconds v with
      | error fault' =>
        rw [hs] at h
        cases h
        rfl
      | ok n =>
        rw [hs] at h
        cases h
  exact readSeconds_eq_error hseconds

theorem readLifetime_of_isInf {x : Float} (h : x.isInf = true) :
    ∃ fault, readLifetime (.float x) = .error fault ∧ fault.kind = .range := by
  simp [readLifetime, readSeconds, h, Except.map, Fault.kind]

/-- An answer that grants a token: its status is a success, and its body an object with an access
token. -/
structure Grants (status : Int) (body : String) (data : Value) : Prop where
  /-- The status is a success. -/
  success : isSuccess status = true
  /-- The body can be read. -/
  reads : Json.read body = .ok data
  /-- It is an object. -/
  object : data.isMap = true
  /-- The object has an access token. -/
  access : ∃ access, data.member "access_token" = .ok access ∧ access.isTrue = true

variable {status : Int} {body : String} {data : Value} {fault : Fault}

theorem readAnswer_of_tooDeep {collection : String}
    (hreads : Json.read body = .error (.tooDeep collection)) :
    readAnswer status body = .error (Json.tooDeep collection) := by
  rw [readAnswer, hreads]

/-- A body that is no JSON is refused, unless it is nested too deep, with the status if that is no
success. -/
theorem readAnswer_of_unread {cause : ReadFault} (hreads : Json.read body = .error cause)
    (h : ∀ collection, cause ≠ .tooDeep collection) :
    readAnswer status body =
      if isSuccess status then
        .error (invalidAnswer "Token endpoint returned non-JSON response" none)
      else .error (.refused ⟨.text "http_error", .text s!"Token endpoint returned status {status}",
        .null, some status⟩) := by
  unfold readAnswer
  rw [hreads]
  split
  · rename_i collection heq
    cases heq
    exact absurd rfl (h collection)
  · rfl
  · rename_i heq
    cases heq

/-- A body that is no object is refused, without the status. -/
theorem readAnswer_of_not_isMap (hreads : Json.read body = .ok data)
    (hobject : data.isMap = false) :
    readAnswer status body =
      .error (invalidAnswer "Token endpoint returned non-object JSON" none) := by
  unfold readAnswer
  simp only [hreads, hobject]
  rfl

/-- An object with a success status is read as a token. -/
theorem readAnswer_of_success (hreads : Json.read body = .ok data) (hobject : data.isMap = true)
    (hsuccess : isSuccess status = true) : readAnswer status body = Token.read data := by
  simp [readAnswer, hreads, hobject, hsuccess]

/-- An object with another status is an error of the endpoint, with what its entries say. -/
theorem readAnswer_of_failure {entries : List (Value × Value)} (hreads : Json.read body = .ok data)
    (hentries : data.entries = .ok entries) (hfailure : isSuccess status = false) :
    readAnswer status body = .error (.refused ⟨(Value.lookup? entries "error").getD unknownError,
      (Value.lookup? entries "error_description").getD .null,
      (Value.lookup? entries "error_uri").getD .null, some status⟩) := by
  have hobject : data.isMap = true := Value.isMap_of_entries hentries
  simp only [readAnswer, hreads, hobject, hfailure, Value.memberOr, Value.member, Value.member?,
    hentries]
  rfl

/-- What is read from an answer that grants a token depends on the lifetime alone. -/
theorem readAnswer_of_grants {lifetime : Value} (h : Grants status body data)
    (hl : data.member "expires_in" = .ok lifetime) :
    ∃ access type, readAnswer status body =
      (readLifetime lifetime).map fun n => ⟨access, type, n, data⟩ := by
  obtain ⟨access, ha, htrue⟩ := h.access
  obtain ⟨type, ht⟩ := Value.exists_memberOr_of_isMap h.object "token_type" (.text "Bearer")
  refine ⟨access, type, ?_⟩
  rw [readAnswer_of_success h.reads h.object h.success, Token.read_eq ha hl ht, if_pos htrue]

/-- An object with a success status grants a token, or it is refused. -/
theorem grants_or_refused (hreads : Json.read body = .ok data) (hobject : data.isMap = true)
    (hsuccess : isSuccess status = true) :
    Grants status body data ∨ ∃ answer, readAnswer status body = .error (.refused answer) := by
  obtain ⟨access, ha⟩ := Value.exists_member_of_isMap hobject "access_token"
  obtain ⟨lifetime, hl⟩ := Value.exists_member_of_isMap hobject "expires_in"
  obtain ⟨type, ht⟩ := Value.exists_memberOr_of_isMap hobject "token_type" (.text "Bearer")
  cases htrue : access.isTrue with
  | true => exact .inl ⟨hsuccess, hreads, hobject, access, ha, htrue⟩
  | false =>
    refine .inr ⟨⟨.text "invalid_response",
      .text "Token endpoint response has no access_token", .null, none⟩, ?_⟩
    rw [readAnswer_of_success hreads hobject hsuccess, Token.read_eq ha hl ht, htrue]
    rfl

/-- An answer is nested too deep, or refused, or it grants a token if its lifetime can be read. -/
theorem readAnswer_cases (status : Int) (body : String) :
    (∃ collection, Json.read body = .error (.tooDeep collection) ∧
      readAnswer status body = .error (Json.tooDeep collection)) ∨
    (∃ answer, readAnswer status body = .error (.refused answer)) ∨
    ∃ data lifetime access type, Grants status body data ∧
      data.member "expires_in" = .ok lifetime ∧
      readAnswer status body = (readLifetime lifetime).map fun n => ⟨access, type, n, data⟩ := by
  cases hreads : Json.read body with
  | error cause =>
    by_cases hdeep : ∃ collection, cause = .tooDeep collection
    · obtain ⟨collection, rfl⟩ := hdeep
      exact .inl ⟨collection, rfl, readAnswer_of_tooDeep hreads⟩
    · rw [not_exists] at hdeep
      refine .inr (.inl ?_)
      rw [readAnswer_of_unread hreads hdeep]
      split
      · exact ⟨_, rfl⟩
      · exact ⟨_, rfl⟩
  | ok data =>
    cases hobject : data.isMap with
    | false => exact .inr (.inl ⟨_, readAnswer_of_not_isMap hreads hobject⟩)
    | true =>
      cases hsuccess : isSuccess status with
      | false =>
        obtain ⟨entries, hentries⟩ := Value.exists_entries_of_isMap hobject
        exact .inr (.inl ⟨_, readAnswer_of_failure hreads hentries hsuccess⟩)
      | true =>
        rcases grants_or_refused hreads hobject hsuccess with hg | hrefused
        · obtain ⟨lifetime, hl⟩ := Value.exists_member_of_isMap hobject "expires_in"
          obtain ⟨access, type, ha⟩ := readAnswer_of_grants hg hl
          exact .inr (.inr ⟨data, lifetime, access, type, hg, hl, ha⟩)
        · exact .inr (.inl hrefused)

/-! ### What comes of asking -/

/-- Answers that lead to faults which are none of the endpoint's, with the kinds of these faults. -/
inductive Stray (status : Int) (body : String) (now : Instant) : Fault.Kind → Prop where
  /-- Too many collections stand inside one another. -/
  | nested {collection : String} : Json.read body = .error (.tooDeep collection) →
      Stray status body now .depth
  /-- The lifetime is infinite. -/
  | endless {data : Value} {x : Float} : Grants status body data →
      data.member "expires_in" = .ok (.float x) → x.isInf = true → Stray status body now .range
  /-- The lifetime leads out of the calendar. -/
  | beyond {data lifetime : Value} {n : Int} : Grants status body data →
      data.member "expires_in" = .ok lifetime → readLifetime lifetime = .ok (some n) →
      (now.plus n).isRepresentable = false → Stray status body now .range

variable {now : Instant} {kind : Fault.Kind}

theorem Stray.isTokenFault (h : Stray status body now fault.kind) : fault.isTokenFault = false := by
  unfold Fault.isTokenFault
  generalize fault.kind = kind at h
  cases h with
  | nested | endless | beyond => rfl

/-- A fetch that ends in a fault was refused, or the answer went astray. -/
theorem stray_of_receive {generation : Nat} (hnow : now.isRepresentable = true)
    (h : readAnswer status body >>= (Fetch.mk generation now).receive = .error fault) :
    fault.isTokenFault = true ∨ Stray status body now fault.kind := by
  rcases readAnswer_cases status body with
    ⟨collection, hdeep, ha⟩ | ⟨answer, ha⟩ | ⟨data, lifetime, access, type, hg, hl, ha⟩
  · rw [ha] at h
    cases h
    exact .inr (.nested hdeep)
  · rw [ha] at h
    cases h
    exact .inl rfl
  · rw [ha] at h
    cases hn : readLifetime lifetime with
    | error fault' =>
      rw [hn] at h
      cases h
      refine (readLifetime_eq_error hn).imp id ?_
      rintro ⟨x, rfl, hx, hkind⟩
      exact hkind ▸ .endless hg hl hx
    | ok seconds =>
      rw [hn] at h
      obtain ⟨n, rfl, he⟩ := receive_eq_error.mp h
      have hfar : (now.plus n).isRepresentable = false := Bool.eq_false_iff.mpr fun hnear => by
        rw [expiry_eq_ok hnow hnear] at he
        cases he
      obtain ⟨detail, hd⟩ := expiry_eq_error hfar
      cases hd.symm.trans he
      exact .inr (.beyond hg hl hn hfar)

/-- An answer that went astray ends the fetch in a fault of its kind. -/
theorem Stray.receive (h : Stray status body now kind) (generation : Nat) :
    ∃ fault, readAnswer status body >>= (Fetch.mk generation now).receive = .error fault ∧
      fault.kind = kind := by
  cases h with
  | nested hdeep => exact ⟨_, by rw [readAnswer_of_tooDeep hdeep]; rfl, rfl⟩
  | endless hg hl hx =>
    obtain ⟨access, type, ha⟩ := readAnswer_of_grants hg hl
    obtain ⟨fault, hf, hkind⟩ := readLifetime_of_isInf hx
    exact ⟨fault, by rw [ha, hf]; rfl, hkind⟩
  | @beyond data lifetime n hg hl hn hfar =>
    obtain ⟨access, type, ha⟩ := readAnswer_of_grants hg hl
    obtain ⟨detail, hd⟩ := expiry_eq_error hfar
    have hreceive : (Fetch.mk generation now).receive ⟨access, type, some n, data⟩ =
        .error (.outOfRange detail) := receive_eq_error.mpr ⟨n, rfl, hd⟩
    exact ⟨_, by rw [ha, hn]; exact hreceive, rfl⟩

theorem isFilled_iff {s : Option String} : isFilled s = true ↔ ∃ t, s = some t ∧ t ≠ "" := by
  cases s with
  | none => simp [isFilled]
  | some t => simp [isFilled]

theorem filter_of_isFilled {s : Option String} (h : isFilled s = true) :
    ∃ t, s.filter (!·.isEmpty) = some t := by
  obtain ⟨t, rfl, ht⟩ := isFilled_iff.mp h
  exact ⟨t, by simp [Option.filter, ht]⟩

namespace Client

variable {client : Client} {id url : String} {request : TokenRequest} {σ : Type}

/-- A client with a grant type, a name and an address has a request to make. -/
theorem exists_request (hgrant : isFilled client.grantType = true)
    (hid : client.clientId = some id) (hurl : client.url = .ok url) :
    ∃ request, client.request = .ok request ∧ request.url = url := by
  obtain ⟨grant, hg⟩ := filter_of_isFilled hgrant
  unfold request tokenForm
  rw [hg, hid, hurl]
  exact ⟨_, rfl, rfl⟩

theorem authenticate_eq (h : client.request = .ok request) (endpoint : Endpoint σ) (s : σ) :
    client.authenticate endpoint s =
      (concludeReply request.url (endpoint request s).1, (endpoint request s).2) := by
  unfold authenticate
  rw [h]

end Client

/-- **Whatever the endpoint answers, a token or a fault of the endpoint comes out, unless the answer
goes astray.** The client has a grant type, a name and an address, and the clock is within the
calendar. -/
theorem Cache.token_or_endpoint_fault {σ : Type} {client : Client} {id url : String}
    (hgrant : isFilled client.grantType = true) (hid : client.clientId = some id)
    (hurl : client.url = .ok url) (hnow : now.isRepresentable = true) (endpoint : Endpoint σ)
    (c : Cache) (s : σ) :
    ∃ request, client.request = .ok request ∧ request.url = url ∧
      (∀ fault, (c.obtain (client.authenticate endpoint) false now s).1 = .error fault →
        fault.isTokenFault = true ∨ ∃ status body, (endpoint request s).1 = .answer status body ∧
          Stray status body now fault.kind) ∧
      ∀ status body kind, c.snapshot.usable? now = none →
        (endpoint request s).1 = .answer status body → Stray status body now kind →
        ∃ fault, (c.obtain (client.authenticate endpoint) false now s).1 = .error fault ∧
          fault.kind = kind ∧ fault.isTokenFault = false := by
  obtain ⟨request, hrequest, hr⟩ := Client.exists_request hgrant hid hurl
  have hask := Client.authenticate_eq hrequest endpoint s
  refine ⟨request, hrequest, hr, fun fault h => ?_, fun status body kind hnone hreply hstray => ?_⟩
  · cases hu : c.snapshot.usable? now with
    | some t =>
      rw [obtain_of_usable hu] at h
      cases h
    | none =>
      cases hf : concludeReply request.url (endpoint request s).1 >>=
          (Fetch.mk c.generation now).receive with
      | ok t =>
        rw [obtain_of_fetched hu hask hf] at h
        cases h
      | error fault' =>
        rw [obtain_of_fault hu hask hf] at h
        cases h
        cases hreply : (endpoint request s).1 with
        | failure reason =>
          rw [hreply] at hf
          cases hf
          exact .inl rfl
        | answer status body =>
          rw [hreply] at hf
          exact (stray_of_receive hnow hf).imp_right fun hstray => ⟨status, body, rfl, hstray⟩
  · obtain ⟨fault, hf, rfl⟩ := hstray.receive c.generation
    have hconclude : concludeReply request.url (endpoint request s).1 >>=
        (Fetch.mk c.generation now).receive = .error fault := by
      rw [hreply]
      exact hf
    rw [obtain_of_fault hnone hask hconclude]
    exact ⟨fault, rfl, rfl, hstray.isTokenFault⟩

/-! ### A token for thirty million years -/

/-- The object of a token with a lifetime. -/
def tokenObject (access : String) (lifetime : Int) : Value :=
  .map [(.text "access_token", .text access), (.text "expires_in", .int lifetime)]

/-- Whether such an object was read. -/
def isTokenObject (access : String) (lifetime : Int) : Except ReadFault Value → Bool
  | .ok (.map [(.text k, .text v), (.text l, .int n)]) =>
    k == "access_token" && v == access && l == "expires_in" && n == lifetime
  | _ => false

theorem eq_tokenObject {access : String} {lifetime : Int} {read : Except ReadFault Value}
    (h : isTokenObject access lifetime read = true) : read = .ok (tokenObject access lifetime) := by
  unfold isTokenObject at h
  split at h
  · simp only [Bool.and_eq_true, beq_iff_eq] at h
    obtain ⟨⟨⟨rfl, rfl⟩, rfl⟩, rfl⟩ := h
    rfl
  · cases h

/-- A client with all it needs. -/
def fullClient : Client :=
  ⟨some "http://t/token", some "c", some "s", some "client_credentials", none, none, none, .int 30⟩

/-- The body of an answer whose lifetime leads out of the calendar. -/
def farBody : String := "\x7b\"access_token\":\"T\",\"expires_in\":1000000000000000\x7d"

/-- An endpoint that gives this answer. -/
def farEndpoint : Endpoint Unit := fun _ s => (.answer 200 farBody, s)

/-- Noon of the first day of 2024. -/
def noonOf2024 : Instant := ⟨63839707200⟩

theorem read_farBody : Json.read farBody = .ok (tokenObject "T" 1000000000000000) :=
  eq_tokenObject (by decide +kernel)

theorem stray_farBody : Stray 200 farBody noonOf2024 .range := by
  have hg : Grants 200 farBody (tokenObject "T" 1000000000000000) :=
    ⟨rfl, read_farBody, rfl, .text "T", rfl, rfl⟩
  exact .beyond hg rfl rfl rfl

/-- A token that would expire after the year 9999 is a fault of range and none of the endpoint. -/
theorem far_token_out_of_range : noonOf2024.isRepresentable = true ∧
    ∃ fault, (Cache.empty.obtain (fullClient.authenticate farEndpoint) false noonOf2024 ()).1 =
      .error fault ∧ fault.kind = .range ∧ fault.isTokenFault = false := by
  have hnow : noonOf2024.isRepresentable = true := rfl
  have hurl : fullClient.url = .ok "http://t/token" := rfl
  have hid : fullClient.clientId = some "c" := rfl
  obtain ⟨request, -, -, -, hstray⟩ :=
    Cache.token_or_endpoint_fault rfl hid hurl hnow farEndpoint Cache.empty ()
  exact ⟨hnow, hstray 200 farBody .range rfl rfl stray_farBody⟩

end RequestAuth
