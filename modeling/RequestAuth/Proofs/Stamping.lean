import RequestAuth.Credential
import RequestAuth.Proofs.Header
import RequestAuth.Proofs.Query

/-!
# Stamping credentials

Credentials whose headers are named by texts are stamped in three steps: the headers are set, the
cookies are put behind the old ones, and the address gets the query. A header that is not named by a
text and an address that cannot be split interrupt the stamping, and what was stamped before stays
on the request (`Interrupted`).
-/

namespace RequestAuth.Credential

/-- A header with its name as a value. -/
def named (h : String × String) : Value × String := (.text h.1, h.2)

variable {c : Credential} {r : Request} {headers : List (String × String)}
  {back : List (Value × String)} {fault : Fault}

/-! ### The three steps -/

theorem stampHeaders_append :
    stampHeaders (headers.map named ++ back) r = stampHeaders back (r.withHeaders headers) := by
  induction headers generalizing r with
  | nil => rfl
  | cons h headers ih => exact ih

theorem stampHeaders_named :
    stampHeaders (headers.map named) r = (.ok (), r.withHeaders headers) := by
  have h : stampHeaders (headers.map named ++ []) r = stampHeaders [] (r.withHeaders headers) :=
    stampHeaders_append
  rwa [List.append_nil] at h

theorem stampHeaders_unnamed {name : Value} (h : name.text? = none) (value : String) :
    stampHeaders ((name, value) :: back) r = (.error .memberMissing, r) := by
  unfold stampHeaders
  split
  · rename_i heq
    cases heq
  · rename_i heq
    cases heq
    cases h
  · rfl

/-- All headers are named by texts, or there is a first one that is not. -/
theorem named_or_unnamed (hs : List (Value × String)) :
    (∃ headers : List (String × String), hs = headers.map named) ∨
      ∃ (headers : List (String × String)) (name : Value) (value : String)
        (back : List (Value × String)),
        hs = headers.map named ++ (name, value) :: back ∧ name.text? = none := by
  induction hs with
  | nil => exact .inl ⟨[], rfl⟩
  | cons h hs ih =>
    obtain ⟨name, value⟩ := h
    cases hn : name.text? with
    | none => exact .inr ⟨[], name, value, hs, rfl, hn⟩
    | some s =>
      obtain rfl : name = .text s := by
        unfold Value.text? at hn
        split at hn
        · cases hn
          rfl
        · cases hn
      rcases ih with ⟨headers, rfl⟩ | ⟨headers, name, value', back, rfl, hname⟩
      · exact .inl ⟨(s, value) :: headers, rfl⟩
      · exact .inr ⟨(s, value) :: headers, name, value', back, rfl, hname⟩

@[simp] theorem url_stampCookies {cookies : List String} :
    (stampCookies cookies r).url = r.url := by
  unfold stampCookies
  split <;> rfl

@[simp] theorem method_stampCookies {cookies : List String} :
    (stampCookies cookies r).method = r.method := by
  unfold stampCookies
  split <;> rfl

@[simp] theorem hooks_stampCookies {cookies : List String} :
    (stampCookies cookies r).hooks = r.hooks := by
  unfold stampCookies
  split <;> rfl

/-- The query is added when there is none to add or the address can be split. -/
theorem stampQuery_of_split {u : Url} {query : List String} (h : Url.split r.url.toList = .ok u) :
    stampQuery query r = (.ok (), if query.isEmpty then r else
      { r with url := String.ofList (u.addQuery (String.intercalate "&" query).toList).join }) := by
  unfold stampQuery
  split
  · rfl
  · rw [appendQuery_of_split h]

theorem stampQuery_eq_error {query : List String} {r' : Request} :
    stampQuery query r = (.error fault, r') ↔
      query ≠ [] ∧ Url.split r.url.toList = .error fault ∧ r' = r := by
  unfold stampQuery
  cases query with
  | nil => simp
  | cons q query =>
    cases hu : Url.split r.url.toList with
    | ok u => simp [appendQuery, hu, bind, Except.bind, pure, Except.pure]
    | error fault' => simp [appendQuery, hu, bind, Except.bind, eq_comm]

/-! ### Interruptions -/

/-- Stamping credentials onto a request is interrupted by a fault and leaves a request. -/
inductive Interrupted (c : Credential) (r : Request) : Fault → Request → Prop where
  /-- A header is not named by a text: those in front of it are set. -/
  | header {headers : List (String × String)} {name : Value} {value : String}
      {back : List (Value × String)} : c.headers = headers.map named ++ (name, value) :: back →
      name.text? = none → Interrupted c r .memberMissing (r.withHeaders headers)
  /-- The address cannot be split: the headers and the cookies are set. -/
  | address {headers : List (String × String)} {fault : Fault} : c.headers = headers.map named →
      c.query ≠ [] → Url.split r.url.toList = .error fault →
      Interrupted c r fault (stampCookies c.cookies (r.withHeaders headers))

theorem stamp_named (h : c.headers = headers.map named) :
    c.stamp r = stampQuery c.query (stampCookies c.cookies (r.withHeaders headers)) := by
  unfold stamp
  rw [h, stampHeaders_named]

/-- A fault of stamping is an interruption. -/
theorem stamp_eq_error {r' : Request} :
    c.stamp r = (.error fault, r') ↔ c.Interrupted r fault r' := by
  constructor
  · intro h
    rcases named_or_unnamed c.headers with
      ⟨headers, hnamed⟩ | ⟨headers, name, value, back, hheaders, hname⟩
    · rw [stamp_named hnamed] at h
      obtain ⟨hquery, hurl, rfl⟩ := stampQuery_eq_error.mp h
      rw [url_stampCookies, Request.url_withHeaders] at hurl
      exact .address hnamed hquery hurl
    · unfold stamp at h
      rw [hheaders, stampHeaders_append, stampHeaders_unnamed hname] at h
      cases h
      exact .header hheaders hname
  · intro h
    cases h with
    | header hheaders hname =>
      unfold stamp
      rw [hheaders, stampHeaders_append, stampHeaders_unnamed hname]
    | address hnamed hquery hurl =>
      rw [stamp_named hnamed]
      refine stampQuery_eq_error.mpr ⟨hquery, ?_, rfl⟩
      rw [url_stampCookies, Request.url_withHeaders]
      exact hurl

/-- An interruption leaves all but the headers. -/
theorem Interrupted.eq_but_headers {r' : Request} (h : c.Interrupted r fault r') :
    r'.url = r.url ∧ r'.method = r.method ∧ r'.hooks = r.hooks := by
  cases h with
  | header => simp
  | address => simp

end RequestAuth.Credential
