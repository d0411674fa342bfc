import RequestAuth.Proofs.Header

/-!
# Places of headers

A header that is set goes to the place of its name (`placeOf`), which is the one behind the last when
there is no such header yet, and all other places stay as they are. From these two facts about one
setting follows what a run of settings does: no header loses its place, those that are not named stay
as they are, and of those that are named the last setting is found.
-/

namespace RequestAuth

variable {hs hs' hs'' : List (String × String)} {name value : String} {i : Nat}
  {e : String × String}

/-- The place of a header: that of the first one of its name, or the one behind the last. -/
def placeOf (hs : List (String × String)) (name : String) : Nat :=
  hs.findIdx fun h => sameHeader h.1 name

theorem placeOf_cons (e : String × String) (hs : List (String × String)) (name : String) :
    placeOf (e :: hs) name = if sameHeader e.1 name then 0 else placeOf hs name + 1 := by
  unfold placeOf
  rw [List.findIdx_cons]
  cases sameHeader e.1 name <;> rfl

theorem sameHeader_of_placeOf (h : hs[placeOf hs name]? = some e) :
    sameHeader e.1 name = true := by
  induction hs with
  | nil => simp at h
  | cons e' hs ih =>
    rw [placeOf_cons] at h
    by_cases he : sameHeader e'.1 name = true
    · rw [if_pos he, List.getElem?_cons_zero] at h
      rwa [← Option.some.inj h]
    · rw [if_neg he, List.getElem?_cons_succ] at h
      exact ih h

/-! ### One setting -/

theorem getElem?_setHeader_placeOf (name value : String) (hs : List (String × String)) :
    (setHeader name value hs)[placeOf hs name]? = some (name, value) := by
  induction hs with
  | nil => rfl
  | cons e hs ih =>
    rw [setHeader, placeOf_cons]
    by_cases he : sameHeader e.1 name = true
    · simp [he]
    · simp [he, ih]

theorem getElem?_setHeader_of_ne (h : i ≠ placeOf hs name) :
    (setHeader name value hs)[i]? = hs[i]? := by
  induction hs generalizing i with
  | nil =>
    have hi : i ≠ 0 := h
    simp [setHeader, hi]
  | cons e hs ih =>
    rw [placeOf_cons] at h
    rw [setHeader]
    by_cases he : sameHeader e.1 name = true
    · rw [if_pos he] at h
      rw [if_pos he]
      cases i with
      | zero => exact absurd rfl h
      | succ i => rfl
    · rw [if_neg he] at h
      rw [if_neg he]
      cases i with
      | zero => rfl
      | succ i =>
        rw [List.getElem?_cons_succ, List.getElem?_cons_succ]
        exact ih (by omega)

theorem mem_setHeader (h : e ∈ setHeader name value hs) : e = (name, value) ∨ e ∈ hs := by
  obtain ⟨i, hi⟩ := List.mem_iff_getElem?.mp h
  by_cases hplace : i = placeOf hs name
  · rw [hplace, getElem?_setHeader_placeOf] at hi
    exact .inl (Option.some.inj hi).symm
  · rw [getElem?_setHeader_of_ne hplace] at hi
    exact .inr (List.mem_of_getElem? hi)

theorem placeOf_setHeader (name value : String) (hs : List (String × String)) :
    placeOf (setHeader name value hs) name = placeOf hs name := by
  induction hs with
  | nil => simp [setHeader, placeOf]
  | cons e hs ih =>
    rw [setHeader, placeOf_cons]
    by_cases he : sameHeader e.1 name = true
    · rw [if_pos he, if_pos he, placeOf_cons, if_pos (sameHeader_refl name)]
    · rw [if_neg he, if_neg he, placeOf_cons, if_neg he, ih]

/-! ### Names that stay where they are -/

/-- No header loses its place: one of its name stands there afterwards. -/
def KeepsPlaces (hs hs' : List (String × String)) : Prop :=
  ∀ (i : Nat) (e : String × String), hs[i]? = some e → ∃ e', hs'[i]? = some e' ∧ sameHeader e'.1 e.1 = true

theorem KeepsPlaces.refl (hs : List (String × String)) : KeepsPlaces hs hs := by
  intro i e he
  exact ⟨e, he, sameHeader_refl e.1⟩

theorem KeepsPlaces.trans (h : KeepsPlaces hs hs') (h' : KeepsPlaces hs' hs'') :
    KeepsPlaces hs hs'' := by
  intro i e he
  obtain ⟨e', he', hsame⟩ := h i e he
  obtain ⟨e'', he'', hsame'⟩ := h' i e' he'
  exact ⟨e'', he'', by rw [← sameHeader_congr hsame, hsame']⟩

theorem keepsPlaces_setHeader (name value : String) (hs : List (String × String)) :
    KeepsPlaces hs (setHeader name value hs) := by
  intro i e he
  by_cases hplace : i = placeOf hs name
  · subst hplace
    refine ⟨(name, value), getElem?_setHeader_placeOf name value hs, ?_⟩
    rw [sameHeader_comm]
    exact sameHeader_of_placeOf he
  · exact ⟨e, by rw [getElem?_setHeader_of_ne hplace, he], sameHeader_refl e.1⟩

/-- The place of a header that is there stays the same. -/
theorem KeepsPlaces.placeOf_eq (h : KeepsPlaces hs hs') (hname : placeOf hs name < hs.length) :
    placeOf hs' name = placeOf hs name := by
  have hfound : sameHeader hs[placeOf hs name].1 name = true :=
    sameHeader_of_placeOf (List.getElem?_eq_getElem hname)
  obtain ⟨e, he, hsame⟩ := h _ _ (List.getElem?_eq_getElem hname)
  obtain ⟨hlt, rfl⟩ := List.getElem?_eq_some_iff.mp he
  refine (List.findIdx_eq hlt).mpr ⟨?_, fun j hj => ?_⟩
  · rw [← sameHeader_congr hfound]
    exact hsame
  · -- a header in front has a name that none in front of the place had before
    have hlen : j < hs.length := Nat.lt_trans hj hname
    obtain ⟨e, he, hsame⟩ := h j _ (List.getElem?_eq_getElem hlen)
    obtain ⟨_, rfl⟩ := List.getElem?_eq_some_iff.mp he
    have hbefore : sameHeader hs[j].1 name = false := by
      simpa using List.not_of_lt_findIdx hj
    rw [sameHeader_congr_left hsame]
    exact hbefore

/-! ### Distinct names -/

/-- No two headers have one name. -/
def HasDistinctNames (hs : List (String × String)) : Prop :=
  hs.Pairwise fun e e' => sameHeader e.1 e'.1 = false

theorem HasDistinctNames.setHeader (h : HasDistinctNames hs) (name value : String) :
    HasDistinctNames (setHeader name value hs) := by
  induction hs with
  | nil => simp [RequestAuth.setHeader, HasDistinctNames]
  | cons e hs ih =>
    obtain ⟨hfirst, hrest⟩ := List.pairwise_cons.mp h
    rw [RequestAuth.setHeader]
    by_cases he : sameHeader e.1 name = true
    · rw [if_pos he]
      refine List.pairwise_cons.mpr ⟨fun e' he' => ?_, hrest⟩
      rw [← sameHeader_congr_left he]
      exact hfirst e' he'
    · rw [if_neg he]
      refine List.pairwise_cons.mpr ⟨fun e' he' => ?_, ih hrest⟩
      rcases mem_setHeader he' with rfl | he'
      · simpa using he
      · exact hfirst e' he'

/-! ### A run of settings -/

namespace Request

variable {r : Request} {headers front back : List (String × String)}

@[simp] theorem headers_withHeader :
    (r.withHeader name value).headers = setHeader name value r.headers := rfl

theorem keepsPlaces_withHeaders (headers : List (String × String)) (r : Request) :
    KeepsPlaces r.headers (r.withHeaders headers).headers := by
  induction headers generalizing r with
  | nil => exact .refl _
  | cons e headers ih =>
    rw [withHeaders_cons]
    exact (keepsPlaces_setHeader e.1 e.2 r.headers).trans (ih (r.withHeader e.1 e.2))

theorem hasDistinctNames_withHeaders (h : HasDistinctNames r.headers) :
    HasDistinctNames (r.withHeaders headers).headers := by
  induction headers generalizing r with
  | nil => exact h
  | cons e headers ih => exact ih (h.setHeader e.1 e.2)

theorem mem_withHeaders (h : e ∈ (r.withHeaders headers).headers) :
    e ∈ headers ∨ e ∈ r.headers := by
  induction headers generalizing r with
  | nil => exact .inr h
  | cons e' headers ih =>
    rcases ih h with hmem | hmem
    · exact .inl (.tail _ hmem)
    · rcases mem_setHeader hmem with rfl | hmem
      · exact .inl (.head _)
      · exact .inr hmem

/-- A header stays as it is when no setting has its name. -/
theorem getElem?_withHeaders_of_unnamed (h : r.headers[i]? = some e)
    (hunnamed : ∀ s ∈ headers, sameHeader s.1 e.1 = false) :
    (r.withHeaders headers).headers[i]? = some e := by
  induction headers generalizing r with
  | nil => exact h
  | cons s headers ih =>
    obtain ⟨hs, hrest⟩ := List.forall_mem_cons.mp hunnamed
    refine ih ?_ hrest
    have hplace : i ≠ placeOf r.headers s.1 := by
      rintro rfl
      have hsame := sameHeader_of_placeOf h
      rw [sameHeader_comm, hs] at hsame
      cases hsame
    rw [headers_withHeader, getElem?_setHeader_of_ne hplace, h]

/-- The last setting of a name is found, in the old place if there was one. -/
theorem getElem?_withHeaders_of_last (hback : ∀ s ∈ back, sameHeader s.1 name = false) :
    let after := r.withHeaders (front ++ (name, value) :: back)
    after.headers[placeOf after.headers name]? = some (name, value) ∧
      (placeOf r.headers name < r.headers.length →
        placeOf after.headers name = placeOf r.headers name) := by
  intro after
  have hkept : KeepsPlaces r.headers after.headers := keepsPlaces_withHeaders _ r
  refine ⟨?_, hkept.placeOf_eq⟩
  have hafter : after = ((r.withHeaders front).withHeader name value).withHeaders back :=
    withHeaders_append
  generalize hset : (r.withHeaders front).withHeader name value = set at hafter
  have hfound : set.headers[placeOf set.headers name]? = some (name, value) := by
    rw [← hset, headers_withHeader, placeOf_setHeader]
    exact getElem?_setHeader_placeOf name value _
  have hlt : placeOf set.headers name < set.headers.length :=
    (List.getElem?_eq_some_iff.mp hfound).1
  rw [hafter, (keepsPlaces_withHeaders back set).placeOf_eq hlt]
  exact getElem?_withHeaders_of_unnamed hfound hback

end Request

end RequestAuth
