import RequestAuth.Proofs.Decoration
import RequestAuth.Proofs.Stamping

/-!
# Requests whose decoration fails

A request is changed by stamping alone, so a decoration that fails before it leaves the request as
it was. One that fails while the chosen credentials are stamped leaves what was stamped before the
fault; address, method and hooks are never touched.
-/

namespace RequestAuth.Authenticator

variable {τ : Type} {a : Authenticator} {bearer : Bearer τ} {request : Request}
  {path method : Option String} {t : τ} {c : Credential} {fault : Fault}

/-- A decoration that fails on changed headers was interrupted while stamping. -/
theorem decorate_eq_error
    (h : (a.decorate bearer request path method t).result = .error fault) :
    (a.decorate bearer request path method t).request = request ∨
      ∃ c, a.Chooses bearer request path method t c ∧
        c.Interrupted request fault (a.decorate bearer request path method t).request := by
  rcases decorate_cases a bearer request path method t with hsame | ⟨c, hc⟩
  · exact .inl hsame
  · obtain ⟨hresult, hrequest⟩ := decorate_of_chooses hc
    rw [h] at hresult
    exact .inr ⟨c, hc, Credential.stamp_eq_error.mp (Prod.ext hresult.symm hrequest.symm)⟩

/-- An interruption of the chosen credentials ends the decoration. -/
theorem decorate_of_interrupted {after : Request} (hc : a.Chooses bearer request path method t c)
    (h : c.Interrupted request fault after) :
    (a.decorate bearer request path method t).result = .error fault ∧
      (a.decorate bearer request path method t).request = after := by
  obtain ⟨hresult, hrequest⟩ := decorate_of_chooses hc
  rw [Credential.stamp_eq_error.mpr h] at hresult hrequest
  refine ⟨?_, hrequest⟩
  cases hd : (a.decorate bearer request path method t).result with
  | ok notices =>
    rw [hd] at hresult
    cases hresult
  | error fault' =>
    rw [hd] at hresult
    cases hresult
    rfl

/-- The path of an address that cannot be split has to be named by a header. -/
theorem header_of_operationPath {p : String} (h : a.operationPath request = .ok p)
    (hurl : Url.split request.url.toList = .error fault) :
    request.header? pathHeader = some p ∧ p ≠ "" := by
  unfold operationPath at h
  split at h
  · rename_i declared hdeclared
    cases h
    simpa [Option.filter_eq_some_iff] using hdeclared
  · rw [hurl] at h
    cases h

theorem authenticate_of_decorate {p : String} (hp : a.operationPath request = .ok p)
    (hd : (a.decorate bearer request (some p) none t).result = .error fault) :
    a.authenticate bearer request t = a.decorate bearer request (some p) none t := by
  unfold authenticate
  rw [hp]
  simp only [hd]

/-- A request that cannot pass through has no path, or its decoration fails. -/
theorem authenticate_eq_error (h : (a.authenticate bearer request t).result = .error fault) :
    (a.authenticate bearer request t).request = request ∨
      ∃ p, a.operationPath request = .ok p ∧
        (a.decorate bearer request (some p) none t).result = .error fault := by
  cases hp : a.operationPath request with
  | error fault' =>
    left
    unfold authenticate
    rw [hp]
  | ok p =>
    right
    refine ⟨p, rfl, ?_⟩
    cases hd : (a.decorate bearer request (some p) none t).result with
    | error fault' => rw [← h, authenticate_of_decorate hp hd, hd]
    | ok notices =>
      unfold authenticate at h
      simp only [hp, hd] at h
      cases h

/-- **A failed decoration leaves the request as it was, unless it is interrupted while stamping.**
Then the headers stay that were set before the fault. Address, method and hooks stay in any case. A
request that passes through with an address that cannot be split is only interrupted when a header
names its path. -/
theorem request_of_failed_decoration (a : Authenticator) (bearer : Bearer τ) (request : Request)
    (t : τ) :
    (∀ path method fault, (a.decorate bearer request path method t).result = .error fault →
      let after := (a.decorate bearer request path method t).request
      (after.url = request.url ∧ after.method = request.method ∧ after.hooks = request.hooks) ∧
        (after = request ∨
          ∃ c, a.Chooses bearer request path method t c ∧ c.Interrupted request fault after)) ∧
    (∀ path method c fault after, a.Chooses bearer request path method t c →
      c.Interrupted request fault after →
        (a.decorate bearer request path method t).result = .error fault ∧
          (a.decorate bearer request path method t).request = after) ∧
    ∀ fault, (a.authenticate bearer request t).result = .error fault →
      (a.authenticate bearer request t).request = request ∨
        ∃ p, a.operationPath request = .ok p ∧
          (a.decorate bearer request (some p) none t).result = .error fault ∧
          (a.authenticate bearer request t).request =
            (a.decorate bearer request (some p) none t).request ∧
          ((∃ cause, Url.split request.url.toList = .error cause) →
            request.header? pathHeader = some p) := by
  refine ⟨fun path method fault h => ?decorate, fun path method c fault after hc h =>
    decorate_of_interrupted hc h, fun fault h => ?authenticate⟩
  case decorate =>
    rcases decorate_eq_error h with hsame | ⟨c, hc, hi⟩
    · exact ⟨by rw [hsame]; exact ⟨rfl, rfl, rfl⟩, .inl hsame⟩
    · exact ⟨hi.eq_but_headers, .inr ⟨c, hc, hi⟩⟩
  case authenticate =>
    refine (authenticate_eq_error h).imp_right ?_
    rintro ⟨p, hp, hd⟩
    refine ⟨p, hp, hd, by rw [authenticate_of_decorate hp hd], ?_⟩
    rintro ⟨cause, hurl⟩
    exact (header_of_operationPath hp hurl).1

/-! ### An address that cannot be split -/

/-- An operation that asks for a key in a header and in the query. -/
def twoKeys : Authenticator where
  config := ⟨none, .none, none, none, none, none, none, some "K", [], none, none, none, none, .null,
    .int 0⟩
  security := {
    schemes := [(.text "header", ⟨.text "header", .null, .apiKey (.text "header") (.text "X-Key")⟩),
      (.text "query", ⟨.text "query", .null, .apiKey (.text "query") (.text "k")⟩)]
    table := ⟨[(⟨"/pets", "GET"⟩, [[(.text "header", []), (.text "query", [])]])], []⟩ }
  basePath := []

/-- No tokens. -/
def noBearer : Bearer Unit := fun t => (.error .tokenSourceMissing, t)

/-- A request whose address opens a bracket and closes none. -/
def brokenRequest : Request := ⟨"http://[h/pets", some "GET", [], 0⟩

/-- The credentials of the operation. -/
def keysOfBoth : Credential := ⟨[(.text "X-Key", "K")], ["k=K"], []⟩

/-- The key is set before the address is found to be broken, and it stays. -/
theorem key_stays_on_broken_request :
    (twoKeys.decorate noBearer brokenRequest (some "/pets") none ()).result.isOk = false ∧
      (twoKeys.decorate noBearer brokenRequest (some "/pets") none ()).request =
        { brokenRequest with headers := [("X-Key", "K")] } := by
  have hnamed : Requirement.IsNamed [(.text "header", []), (.text "query", [])] := by
    simp [Requirement.IsNamed, or_imp, forall_and]
  have hchooses : twoKeys.Chooses noBearer brokenRequest (some "/pets") none () keysOfBoth :=
    chooses_of_satisfied rfl (by simpa using hnamed) .nil rfl
  have hheaders : keysOfBoth.headers = [("X-Key", "K")].map Credential.named := rfl
  have hurl : Url.split brokenRequest.url.toList = .error Url.bracketFault := rfl
  have hinterrupted : keysOfBoth.Interrupted brokenRequest Url.bracketFault
      { brokenRequest with headers := [("X-Key", "K")] } :=
    .address hheaders (by simp [keysOfBoth]) hurl
  obtain ⟨hresult, hrequest⟩ :=
    (request_of_failed_decoration twoKeys noBearer brokenRequest ()).2.1 (some "/pets") none _ _ _
      hchooses hinterrupted
  exact ⟨by rw [hresult]; rfl, hrequest⟩

end RequestAuth.Authenticator
