import RequestAuth.Proofs.Stamping

/-!
# Headers in another order

Two lists of headers may differ in the order of different names only (`SameHeaders`): then they hold
the same headers, and setting a header keeps them so. Settings of different headers may change
places, and requests that are alike in this sense (`Request.Alike`) stay alike when credentials are
stamped onto them.
-/

namespace RequestAuth

/-! ### The headers of one name -/

/-- The headers of a name, in order. -/
def headersOf (name : String) (hs : List (String × String)) : List (String × String) :=
  hs.filter fun e => sameHeader e.1 name

/-- The headers of each name are the same, in the same order. -/
def SameHeaders (hs hs' : List (String × String)) : Prop :=
  ∀ name, headersOf name hs' = headersOf name hs

variable {hs hs' : List (String × String)} {name other value : String}

/-- Headers that are the same for each name are the same up to their order. -/
theorem SameHeaders.perm (h : SameHeaders hs hs') : hs.Perm hs' := by
  rw [List.perm_iff_count]
  intro e
  have hcount := congrArg (List.count e) (h e.1)
  unfold headersOf at hcount
  rwa [List.count_filter (by simp), List.count_filter (by simp), eq_comm] at hcount

theorem headersOf_setHeader_of_same (h : sameHeader name other = true) (value : String)
    (hs : List (String × String)) :
    headersOf other (setHeader name value hs) = setHeader name value (headersOf other hs) := by
  unfold headersOf
  induction hs with
  | nil => simp [setHeader, h]
  | cons e hs ih =>
    rw [setHeader, List.filter_cons]
    cases he : sameHeader e.1 name with
    | true =>
      have hother : sameHeader e.1 other = true := (sameHeader_congr h e.1).symm.trans he
      simp [setHeader, h, hother, he]
    | false =>
      have hother : sameHeader e.1 other = false := (sameHeader_congr h e.1).symm.trans he
      simp [hother, ih]

theorem headersOf_setHeader_of_ne (h : sameHeader name other = false) (value : String)
    (hs : List (String × String)) :
    headersOf other (setHeader name value hs) = headersOf other hs := by
  unfold headersOf
  induction hs with
  | nil => simp [setHeader, h]
  | cons e hs ih =>
    rw [setHeader]
    cases he : sameHeader e.1 name with
    | true =>
      have hother : sameHeader e.1 other = false := (sameHeader_congr_left he other).trans h
      simp [h, hother]
    | false =>
      simp only [Bool.false_eq_true, if_false, List.filter_cons, ih]

/-- Of two settings of one header the second counts. -/
theorem setHeader_setHeader (h : sameHeader name other = true) (value value' : String)
    (hs : List (String × String)) :
    setHeader other value' (setHeader name value hs) = setHeader other value' hs := by
  induction hs with
  | nil => simp [setHeader, h]
  | cons e hs ih =>
    have hsame : sameHeader e.1 other = sameHeader e.1 name := (sameHeader_congr h e.1).symm
    rw [setHeader, setHeader.eq_def other value' (e :: hs)]
    cases he : sameHeader e.1 name with
    | true => simp [setHeader, h, hsame, he]
    | false => simp [setHeader, hsame, he, ih]

theorem SameHeaders.setHeader (h : SameHeaders hs hs') (name value : String) :
    SameHeaders (setHeader name value hs) (setHeader name value hs') := by
  intro other
  cases hsame : sameHeader name other with
  | true => rw [headersOf_setHeader_of_same hsame, headersOf_setHeader_of_same hsame, h other]
  | false => rw [headersOf_setHeader_of_ne hsame, headersOf_setHeader_of_ne hsame, h other]

/-- Settings of different headers may change places. -/
theorem sameHeaders_setHeader_comm (h : sameHeader name other = false) (value value' : String)
    (hs : List (String × String)) :
    SameHeaders (setHeader name value (setHeader other value' hs))
      (setHeader other value' (setHeader name value hs)) := by
  intro third
  cases hname : sameHeader name third with
  | true =>
    have hother : sameHeader other third = false := by
      rw [← sameHeader_congr hname, sameHeader_comm]
      exact h
    rw [headersOf_setHeader_of_ne hother, headersOf_setHeader_of_same hname,
      headersOf_setHeader_of_same hname, headersOf_setHeader_of_ne hother]
  | false =>
    rw [headersOf_setHeader_of_ne hname]
    cases hother : sameHeader other third with
    | true =>
      rw [headersOf_setHeader_of_same hother, headersOf_setHeader_of_ne hname,
        headersOf_setHeader_of_same hother]
    | false =>
      rw [headersOf_setHeader_of_ne hother, headersOf_setHeader_of_ne hname,
        headersOf_setHeader_of_ne hother]

/-! ### Requests that are alike -/

/-- Two requests differ in the order of their headers only. -/
structure Request.Alike (r r' : Request) : Prop where
  /-- The address is the same. -/
  url : r'.url = r.url
  /-- The method is the same. -/
  method : r'.method = r.method
  /-- As many hooks wait. -/
  hooks : r'.hooks = r.hooks
  /-- The headers are the same for each name. -/
  headers : SameHeaders r.headers r'.headers

namespace Request.Alike

variable {r r' r'' : Request} {settings : List (String × String)}

theorem refl (r : Request) : r.Alike r := ⟨rfl, rfl, rfl, fun _ => rfl⟩

theorem symm (h : r.Alike r') : r'.Alike r :=
  ⟨h.url.symm, h.method.symm, h.hooks.symm, fun name => (h.headers name).symm⟩

theorem trans (h : r.Alike r') (h' : r'.Alike r'') : r.Alike r'' :=
  ⟨h'.url.trans h.url, h'.method.trans h.method, h'.hooks.trans h.hooks,
    fun name => (h'.headers name).trans (h.headers name)⟩

theorem header?_eq (h : r.Alike r') (name : String) : r'.header? name = r.header? name := by
  have hfirst := congrArg List.head? (h.headers name)
  unfold headersOf at hfirst
  rw [List.head?_filter, List.head?_filter] at hfirst
  unfold header?
  rw [hfirst]

theorem withUrl (h : r.Alike r') (url : String) : { r with url }.Alike { r' with url } :=
  ⟨rfl, h.method, h.hooks, h.headers⟩

theorem withHeader (h : r.Alike r') (name value : String) :
    (r.withHeader name value).Alike (r'.withHeader name value) :=
  ⟨h.url, h.method, h.hooks, h.headers.setHeader name value⟩

theorem withHeaders (h : r.Alike r') (settings : List (String × String)) :
    (r.withHeaders settings).Alike (r'.withHeaders settings) := by
  induction settings generalizing r r' with
  | nil => exact h
  | cons e settings ih => exact ih (h.withHeader e.1 e.2)

/-- A setting may be made before or after those of other headers. -/
theorem withHeaders_comm (h : ∀ e ∈ settings, sameHeader name e.1 = false) (value : String)
    (r : Request) :
    ((r.withHeaders settings).withHeader name value).Alike
      ((r.withHeader name value).withHeaders settings) := by
  induction settings generalizing r with
  | nil => exact .refl _
  | cons e settings ih =>
    obtain ⟨he, hrest⟩ := List.forall_mem_cons.mp h
    have hswap : ((r.withHeader e.1 e.2).withHeader name value).Alike
        ((r.withHeader name value).withHeader e.1 e.2) :=
      ⟨rfl, rfl, rfl, fun third => sameHeaders_setHeader_comm he value e.2 r.headers third⟩
    exact (ih hrest (r.withHeader e.1 e.2)).trans (hswap.withHeaders settings)

end Request.Alike

/-- Of two settings of one header the second counts. -/
theorem Request.withHeader_withHeader (h : sameHeader name other = true) (value value' : String)
    (r : Request) :
    (r.withHeader name value).withHeader other value' = r.withHeader other value' := by
  simp only [Request.withHeader, setHeader_setHeader h]

/-! ### Stamping -/

/-- Two stampings end alike: in the same fault, or in requests that are alike. -/
structure StampedAlike (x y : Except Fault Unit × Request) : Prop where
  /-- Both end in the same fault, or neither does in one. -/
  result : y.1 = x.1
  /-- Without a fault the requests are alike. -/
  request : x.1 = .ok () → x.2.Alike y.2

namespace StampedAlike

variable {x y z : Except Fault Unit × Request}

theorem refl (x : Except Fault Unit × Request) : StampedAlike x x := ⟨rfl, fun _ => .refl _⟩

theorem trans (h : StampedAlike x y) (h' : StampedAlike y z) : StampedAlike x z :=
  ⟨h'.result.trans h.result, fun hx => (h.request hx).trans (h'.request (h.result.trans hx))⟩

end StampedAlike

namespace Credential

variable {c : Credential} {r r' : Request} {cookies query : List String}

theorem alike_stampCookies (h : r.Alike r') (cookies : List String) :
    (stampCookies cookies r).Alike (stampCookies cookies r') := by
  unfold stampCookies
  split
  · exact h
  · rw [h.header?_eq]
    exact h.withHeader _ _

theorem alike_stampQuery (h : r.Alike r') (query : List String) :
    StampedAlike (stampQuery query r) (stampQuery query r') := by
  unfold stampQuery
  rw [h.url]
  split
  · exact ⟨rfl, fun _ => h⟩
  · split
    · exact ⟨rfl, fun _ => h.withUrl _⟩
    · exact ⟨rfl, nofun⟩

/-- Requests that are alike stay so when credentials are stamped onto them. -/
theorem alike_stamp (h : r.Alike r') (c : Credential) :
    StampedAlike (c.stamp r) (c.stamp r') := by
  rcases named_or_unnamed c.headers with
    ⟨headers, hnamed⟩ | ⟨headers, name, value, back, hheaders, hname⟩
  · rw [stamp_named hnamed, stamp_named hnamed]
    exact alike_stampQuery (alike_stampCookies (h.withHeaders headers) c.cookies) c.query
  · have hfault (r : Request) : c.stamp r = (.error .memberMissing, r.withHeaders headers) := by
      rw [stamp_eq_error]
      exact .header hheaders hname
    rw [hfault, hfault]
    exact ⟨rfl, nofun⟩

end Credential

end RequestAuth
