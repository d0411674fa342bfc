import RequestAuth.Request

/-!
# Headers whose case does not matter

Setting a header gives it the new value and leaves all others alone, and several headers can be set
one after the other: the last one of a name counts.
-/

namespace RequestAuth

/-! ### Names of one header -/

theorem sameHeader_iff {a b : String} : sameHeader a b = true ↔ lowerText a = lowerText b :=
  beq_iff_eq

@[simp] theorem sameHeader_refl (a : String) : sameHeader a a = true := sameHeader_iff.mpr rfl

theorem sameHeader_comm (a b : String) : sameHeader a b = sameHeader b a := by
  rw [Bool.eq_iff_iff, sameHeader_iff, sameHeader_iff]
  exact eq_comm

/-- Names of one header are so for any third name. -/
theorem sameHeader_congr {a b : String} (h : sameHeader a b = true) (c : String) :
    sameHeader c a = sameHeader c b := by
  rw [Bool.eq_iff_iff, sameHeader_iff, sameHeader_iff, sameHeader_iff.mp h]

theorem sameHeader_congr_left {a b : String} (h : sameHeader a b = true) (c : String) :
    sameHeader a c = sameHeader b c := by
  rw [sameHeader_comm a c, sameHeader_comm b c, sameHeader_congr h]

/-! ### Setting -/

theorem find?_setHeader_of_same {name other : String} (h : sameHeader name other = true)
    (value : String) (hs : List (String × String)) :
    (setHeader name value hs).find? (fun e => sameHeader e.1 other) = some (name, value) := by
  induction hs with
  | nil => simp [setHeader, h]
  | cons e hs ih =>
    unfold setHeader
    cases he : sameHeader e.1 name with
    | true => simp [h]
    | false =>
      have hother : sameHeader e.1 other = false := (sameHeader_congr h e.1).symm.trans he
      simp [hother, ih]

theorem find?_setHeader_of_ne {name other : String} (h : sameHeader name other = false)
    (value : String) (hs : List (String × String)) :
    (setHeader name value hs).find? (fun e => sameHeader e.1 other) =
      hs.find? fun e => sameHeader e.1 other := by
  induction hs with
  | nil => simp [setHeader, h]
  | cons e hs ih =>
    unfold setHeader
    cases he : sameHeader e.1 name with
    | true =>
      have hother : sameHeader e.1 other = false := (sameHeader_congr_left he other).trans h
      simp [h, hother]
    | false =>
      simp only [Bool.false_eq_true, if_false, List.find?_cons, ih]

namespace Request

variable {r : Request} {name other value : String}

@[simp] theorem url_withHeader : (r.withHeader name value).url = r.url := rfl

@[simp] theorem method_withHeader : (r.withHeader name value).method = r.method := rfl

@[simp] theorem hooks_withHeader : (r.withHeader name value).hooks = r.hooks := rfl

theorem header?_congr (h : sameHeader name other = true) (r : Request) :
    r.header? name = r.header? other := by
  unfold header?
  simp only [sameHeader_congr h]

theorem header?_withHeader_of_same (h : sameHeader name other = true) :
    (r.withHeader name value).header? other = some value := by
  rw [header?, withHeader, find?_setHeader_of_same h]
  rfl

theorem header?_withHeader_of_ne (h : sameHeader name other = false) :
    (r.withHeader name value).header? other = r.header? other := by
  rw [header?, withHeader, find?_setHeader_of_ne h]
  rfl

/-! ### Several headers -/

/-- The request with headers set one after the other. -/
def withHeaders (r : Request) (headers : List (String × String)) : Request :=
  headers.foldl (fun r h => r.withHeader h.1 h.2) r

variable {headers : List (String × String)}

@[simp] theorem withHeaders_nil : r.withHeaders [] = r := rfl

@[simp] theorem withHeaders_cons {h : String × String} :
    r.withHeaders (h :: headers) = (r.withHeader h.1 h.2).withHeaders headers := rfl

theorem withHeaders_append {more : List (String × String)} :
    r.withHeaders (headers ++ more) = (r.withHeaders headers).withHeaders more := List.foldl_append

@[simp] theorem url_withHeaders : (r.withHeaders headers).url = r.url := by
  induction headers generalizing r with
  | nil => rfl
  | cons h headers ih => rw [withHeaders_cons, ih, url_withHeader]

@[simp] theorem method_withHeaders : (r.withHeaders headers).method = r.method := by
  induction headers generalizing r with
  | nil => rfl
  | cons h headers ih => rw [withHeaders_cons, ih, method_withHeader]

@[simp] theorem hooks_withHeaders : (r.withHeaders headers).hooks = r.hooks := by
  induction headers generalizing r with
  | nil => rfl
  | cons h headers ih => rw [withHeaders_cons, ih, hooks_withHeader]

/-- Settings of other headers leave the value of a header. -/
theorem header?_withHeaders_of_unnamed (h : ∀ e ∈ headers, sameHeader e.1 name = false) :
    (r.withHeaders headers).header? name = r.header? name := by
  induction headers generalizing r with
  | nil => rfl
  | cons e headers ih =>
    obtain ⟨he, hrest⟩ := List.forall_mem_cons.mp h
    rw [withHeaders_cons, ih hrest, header?_withHeader_of_ne he]

/-- A header keeps its value when those set later agree with it. -/
theorem header?_withHeaders_of_agree (hr : r.header? other = some value)
    (h : ∀ e ∈ headers, sameHeader e.1 other = true → e.2 = value) :
    (r.withHeaders headers).header? other = some value := by
  induction headers generalizing r with
  | nil => exact hr
  | cons e headers ih =>
    rw [withHeaders_cons]
    refine ih ?_ fun e he => h e (.tail _ he)
    cases he : sameHeader e.1 other with
    | true => rw [header?_withHeader_of_same he, h e (.head _) he]
    | false => rw [header?_withHeader_of_ne he, hr]

end Request

end RequestAuth
