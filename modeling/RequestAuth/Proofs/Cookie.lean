import RequestAuth.Proofs.Stamping

/-!
# Cookies in a header

The items of a cookie header stand between semicolons with a blank. Cookies are put behind the old
value, so their items come behind the old ones.
-/

namespace RequestAuth

/-! ### Items -/

/-- The items of a cookie header, which are separated by semicolons with a blank. -/
def cookieItems : List Char → List (List Char)
  | [] => [[]]
  | ';' :: ' ' :: rest => [] :: cookieItems rest
  | c :: rest => (cookieItems rest).modifyHead (c :: ·)

theorem cookieItems_ne_nil (s : List Char) : cookieItems s ≠ [] := by
  fun_induction cookieItems s with
  | case1 => simp
  | case2 => simp
  | case3 c rest _ ih => simpa using ih

/-- A character that does not begin a separator belongs to the first item. -/
theorem cookieItems_cons {c : Char} {s : List Char} (h : ∀ rest, c = ';' → s ≠ ' ' :: rest) :
    cookieItems (c :: s) = (cookieItems s).modifyHead (c :: ·) := by
  rw [cookieItems]
  exact fun rest hc hs => h rest hc hs

/-- The items of two texts with a separator between them are the items of both. -/
theorem cookieItems_append (s rest : List Char) :
    cookieItems (s ++ ';' :: ' ' :: rest) = cookieItems s ++ cookieItems rest := by
  fun_induction cookieItems s with
  | case1 => simp [cookieItems]
  | case2 s ih => simp [cookieItems, ih]
  | case3 c s h ih =>
    -- the separator does not begin in the last character of the first text
    have hcons : ∀ more, c = ';' → s ++ ';' :: ' ' :: rest ≠ ' ' :: more := by
      intro more hc heq
      cases s with
      | nil => cases heq
      | cons d s =>
        cases heq
        exact h s hc rfl
    obtain ⟨first, items, hfirst⟩ := List.exists_cons_of_ne_nil (cookieItems_ne_nil s)
    rw [List.cons_append, cookieItems_cons hcons, ih, hfirst]
    rfl

theorem cookieItems_eq_singleton {s : List Char} (h : ';' ∉ s) : cookieItems s = [s] := by
  fun_induction cookieItems s with
  | case1 => rfl
  | case2 rest ih => simp at h
  | case3 c s _ ih =>
    rw [ih fun hs => h (.tail _ hs)]
    rfl

/-- Texts without semicolons are the items of what they make up. -/
theorem cookieItems_intercalate {items : List (List Char)} (hne : items ≠ [])
    (h : ∀ item ∈ items, ';' ∉ item) :
    cookieItems ([';', ' '].intercalate items) = items := by
  induction items with
  | nil => exact absurd rfl hne
  | cons item items ih =>
    have hitem := cookieItems_eq_singleton (h item (.head _))
    cases items with
    | nil => rw [List.intercalate_singleton, hitem]
    | cons next items =>
      have hrest := ih (List.cons_ne_nil _ _) fun i hi => h i (.tail _ hi)
      have happend : [';', ' '].intercalate (item :: next :: items) =
          item ++ ';' :: ' ' :: [';', ' '].intercalate (next :: items) := by
        simp [List.intercalate_cons_cons]
      rw [happend, cookieItems_append, hitem, hrest]
      rfl

namespace Credential

variable {cookies : List String} {r : Request} {name : String}

/-! ### The new value -/

theorem cookieValue_of_filled {old : String} (h : old ≠ "") (cookies : List String) :
    cookieValue (some old) cookies = old ++ "; " ++ String.intercalate "; " cookies := by
  have hfilled : (some old).filter (!·.isEmpty) = some old := by
    simp [Option.filter, h]
  rw [cookieValue, hfilled]

theorem cookieValue_of_empty {old : Option String} (h : ∀ s, old = some s → s = "")
    (cookies : List String) : cookieValue old cookies = String.intercalate "; " cookies := by
  have hempty : old.filter (!·.isEmpty) = none := by
    cases old with
    | none => rfl
    | some s => simp [Option.filter, h s rfl]
  rw [cookieValue, hempty]

/-- Cookies without semicolons are items of the new value. -/
theorem mem_cookieItems_cookieValue {cookie : String} (hcookie : cookie ∈ cookies)
    (h : ∀ cookie ∈ cookies, ';' ∉ cookie.toList) (old : Option String) :
    cookie.toList ∈ cookieItems (cookieValue old cookies).toList := by
  have hitems : cookieItems (String.intercalate "; " cookies).toList =
      cookies.map String.toList := by
    rw [String.toList_intercalate]
    refine cookieItems_intercalate ?_ ?_
    · exact fun hnil => absurd (List.map_eq_nil_iff.mp hnil) (List.ne_nil_of_mem hcookie)
    · intro item hitem
      obtain ⟨cookie, hmem, rfl⟩ := List.mem_map.mp hitem
      exact h cookie hmem
  have hmem : cookie.toList ∈ cookieItems (String.intercalate "; " cookies).toList := by
    rw [hitems]
    exact List.mem_map_of_mem hcookie
  unfold cookieValue
  dsimp only
  split
  · rename_i old _
    have hvalue : (old ++ "; " ++ String.intercalate "; " cookies).toList =
        old.toList ++ ';' :: ' ' :: (String.intercalate "; " cookies).toList := by
      simp
    rw [hvalue, cookieItems_append]
    exact List.mem_append_right _ hmem
  · exact hmem

/-! ### Headers behind the cookies -/

theorem stampCookies_nil : stampCookies [] r = r := rfl

theorem header?_stampCookies_of_ne (h : sameHeader "Cookie" name = false) :
    (stampCookies cookies r).header? name = r.header? name := by
  unfold stampCookies
  split
  · rfl
  · exact Request.header?_withHeader_of_ne h

theorem header?_stampCookies (hne : cookies ≠ []) (h : sameHeader "Cookie" name = true) :
    (stampCookies cookies r).header? name =
      some (cookieValue (r.header? "Cookie") cookies) := by
  unfold stampCookies
  rw [if_neg (by simpa using hne)]
  exact Request.header?_withHeader_of_same h

end Credential

end RequestAuth
