import RequestAuth.Proofs.Grant

/-!
# What a failed reply tells

A reply whose status is no success is refused. The refusal has the status and what the body says
about the error, when the body is an object, and the status when it is no JSON. For a body that is
JSON but no object the status is lost, and a body that is nested too deep is another fault
(`HidesStatus`).
-/

namespace RequestAuth

/-- A body hides the status of its answer: it is JSON but no object, or it is nested too deep. -/
def HidesStatus (body : String) : Prop :=
  (∃ v, Json.read body = .ok v ∧ v.isMap = false) ∨
    ∃ collection, Json.read body = .error (.tooDeep collection)

section Answers

variable {status : Int} {body : String} {entries : List (Value × Value)} {v : Value}
  {cause : ReadFault} {collection : String}

/-- A body that hides no status is an object, or it cannot be read. -/
theorem body_cases (body : String) :
    (∃ entries, Json.read body = .ok (.map entries)) ∨
      (∃ cause, Json.read body = .error cause ∧ ∀ collection, cause ≠ .tooDeep collection) ∨
        HidesStatus body := by
  cases hreads : Json.read body with
  | ok v =>
    cases hobject : v.isMap with
    | true =>
      obtain ⟨entries, rfl⟩ := Json.exists_eq_map_of_read hreads hobject
      exact .inl ⟨entries, rfl⟩
    | false => exact .inr (.inr (.inl ⟨v, hreads, hobject⟩))
  | error cause =>
    by_cases hdeep : ∃ collection, cause = .tooDeep collection
    · obtain ⟨collection, rfl⟩ := hdeep
      exact .inr (.inr (.inr ⟨collection, hreads⟩))
    · rw [not_exists] at hdeep
      exact .inr (.inl ⟨cause, rfl, hdeep⟩)

theorem isSuccess_eq_false (h : ¬ (200 ≤ status ∧ status < 300)) : isSuccess status = false := by
  rw [Bool.eq_false_iff, ne_eq, isSuccess_iff]
  exact h

/-- An object says what the error is, and the status stays with it. -/
theorem refusal_of_map (hstatus : ¬ (200 ≤ status ∧ status < 300))
    (h : Json.read body = .ok (.map entries)) :
    readAnswer status body = .error (.refused
      ⟨(Value.lookup? entries "error").getD (.text "unknown_error"),
        (Value.lookup? entries "error_description").getD .null,
        (Value.lookup? entries "error_uri").getD .null, some status⟩) :=
  readAnswer_of_failure h rfl (isSuccess_eq_false hstatus)

/-- A body that is no JSON leaves the status to tell. -/
theorem refusal_of_error (hstatus : ¬ (200 ≤ status ∧ status < 300))
    (h : Json.read body = .error cause) (hcause : ∀ collection, cause ≠ .tooDeep collection) :
    readAnswer status body = .error (.refused ⟨.text "http_error",
      .text s!"Token endpoint returned status {status}", .null, some status⟩) := by
  rw [readAnswer_of_unread h hcause, isSuccess_eq_false hstatus]
  rfl

/-- What a fault tells of an answer whose status is no success. -/
structure Tells (status : Int) (body : String) (fault : Fault) : Prop where
  /-- It is a refusal with the status unless the body hides that. -/
  keeps : (∃ answer, fault = .refused answer ∧ answer.status = some status) ↔ ¬ HidesStatus body
  /-- The entries of an object say what the error is. -/
  object : ∀ entries, Json.read body = .ok (.map entries) → fault = .refused
    ⟨(Value.lookup? entries "error").getD (.text "unknown_error"),
      (Value.lookup? entries "error_description").getD .null,
      (Value.lookup? entries "error_uri").getD .null, some status⟩
  /-- Without JSON there is the status alone. -/
  unread : ∀ cause, Json.read body = .error cause → (∀ collection, cause ≠ .tooDeep collection) →
    fault = .refused ⟨.text "http_error", .text s!"Token endpoint returned status {status}", .null,
      some status⟩
  /-- Other JSON is refused like that of an answer with a success status. -/
  other : ∀ v, Json.read body = .ok v → v.isMap = false →
    fault = invalidAnswer "Token endpoint returned non-object JSON" none
  /-- A body that is nested too deep is no refusal. -/
  nested : ∀ collection, Json.read body = .error (.tooDeep collection) →
    fault = Json.tooDeep collection

/-- An answer whose status is no success ends in a fault that tells of it. -/
theorem exists_tells (hstatus : ¬ (200 ≤ status ∧ status < 300)) (body : String) :
    ∃ fault, readAnswer status body = .error fault ∧ Tells status body fault := by
  obtain ⟨fault, hfault⟩ : ∃ fault, readAnswer status body = .error fault := by
    cases hanswer : readAnswer status body with
    | error fault => exact ⟨fault, rfl⟩
    | ok token =>
      obtain ⟨hlow, hhigh, -⟩ := readAnswer_eq_ok.mp hanswer
      exact absurd ⟨hlow, hhigh⟩ hstatus
  have heq {fault' : Fault} (h : readAnswer status body = .error fault') : fault = fault' :=
    Except.error.inj (hfault.symm.trans h)
  refine ⟨fault, hfault, ?keeps, fun entries h => heq (refusal_of_map hstatus h),
    fun cause h hcause => heq (refusal_of_error hstatus h hcause),
    fun v h hobject => heq (readAnswer_of_not_isMap h hobject),
    fun collection h => heq (readAnswer_of_tooDeep h)⟩
  constructor
  · rintro ⟨answer, rfl, hkept⟩ (⟨v, h, hobject⟩ | ⟨collection, h⟩)
    · cases heq (readAnswer_of_not_isMap h hobject)
      cases hkept
    · cases heq (readAnswer_of_tooDeep h)
  · intro hshows
    rcases body_cases body with ⟨entries, h⟩ | ⟨cause, h, hcause⟩ | hhides
    · exact ⟨_, heq (refusal_of_map hstatus h), rfl⟩
    · exact ⟨_, heq (refusal_of_error hstatus h hcause), rfl⟩
    · exact absurd hhides hshows

end Answers

/-- **A failed reply keeps its status unless the body hides it.** A client that lacks nothing and
whose addresses can be taken apart is refused when the status is no success. The refusal has that
status and what an object says of the error, but for bodies that are JSON other than an object, whose
refusal has no status, and for those that are nested too deep. -/
theorem Client.failed_reply_refused {client : Client} (hlacks : ¬ client.Lacks)
    (haddress : client.IsAddressable) :
    ∃ request, client.request = .ok request ∧
      ∀ {σ : Type} (endpoint : Endpoint σ) (s : σ) (status : Int) (body : String),
        (endpoint request s).1 = .answer status body → ¬ (200 ≤ status ∧ status < 300) →
          ∃ fault, (client.authenticate endpoint s).1 = .error fault ∧ Tells status body fault := by
  obtain ⟨request, hrequest⟩ := exists_request_of_not_lacks hlacks haddress
  refine ⟨request, hrequest, fun endpoint s status body hreply hstatus => ?_⟩
  rw [authenticate_eq hrequest, hreply]
  exact exists_tells hstatus body

/-- The body of an answer with an error code. -/
def errorBody : String := "\x7b\"error\":\"invalid_client\"\x7d"

/-- The status of an answer with an empty array is lost, and that of an error object is kept. -/
theorem status_lost_behind_array :
    ¬ fullClient.Lacks ∧ fullClient.IsAddressable ∧
      (fullClient.authenticate (fun _ s => (.answer 503 "[]", s)) ()).1 =
          .error (invalidAnswer "Token endpoint returned non-object JSON" none) ∧
        (fullClient.authenticate (fun _ s => (.answer 400 errorBody, s)) ()).1 =
          .error (.refused ⟨.text "invalid_client", .null, .null, some 400⟩) := by
  have hlacks : ¬ fullClient.Lacks := by
    rintro (h | h | h | ⟨⟨⟩, ⟨⟩, h, -⟩)
    · cases h
    · cases h
    · cases h
    · exact h.elim nofun nofun
  have haddress : fullClient.IsAddressable := by
    rintro text ⟨⟩
    exact ⟨_, rfl, fun _ => nofun⟩
  have harray : Json.read "[]" = .ok (.list []) := by
    simp [Json.read, Json.value, Json.skipSpace, Json.maxDepth, Interpreter.maxCalls, bind,
      Except.bind, pure, Except.pure]
  have hobject : Json.read errorBody = .ok (.map (textEntries [("error", "invalid_client")])) :=
    eq_map_textEntries (by decide +kernel)
  obtain ⟨request, -, htells⟩ := Client.failed_reply_refused hlacks haddress
  obtain ⟨lost, hlost, hlostTells⟩ :=
    htells (fun _ s => (.answer 503 "[]", s)) () 503 "[]" rfl (by decide)
  obtain ⟨kept, hkept, hkeptTells⟩ :=
    htells (fun _ s => (.answer 400 errorBody, s)) () 400 errorBody rfl (by decide)
  rw [hlostTells.other _ harray rfl] at hlost
  rw [hkeptTells.object _ hobject] at hkept
  exact ⟨hlacks, haddress, hlost, hkept⟩

end RequestAuth
