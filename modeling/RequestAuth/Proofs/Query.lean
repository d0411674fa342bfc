import RequestAuth.Proofs.Url

/-!
# Adding a query

A query that is added to an address with an authority changes the query and nothing else: the new
address is split into the old parts, with the new query behind the old one. Queries that are added
one after the other are added at once with an ampersand between them.
-/

namespace RequestAuth

/-- A text may stand in a query: nothing in it ends the query or is dropped from an address. -/
def IsQueryText (s : String) : Prop := ∀ c ∈ ['#', '\t', '\n', '\r'], c ∉ s.toList

instance (s : String) : Decidable (IsQueryText s) :=
  decidable_of_iff (['#', '\t', '\n', '\r'].all (fun c => !s.toList.contains c) = true)
    (by simp [IsQueryText])

/-- A character other than the ampersand stands between ampersands only when it is in a part. -/
theorem not_mem_intercalate {pairs : List String} {c : Char} (hne : c ≠ '&')
    (h : ∀ pair ∈ pairs, c ∉ pair.toList) : c ∉ (String.intercalate "&" pairs).toList := by
  rw [String.toList_intercalate]
  induction pairs with
  | nil => simp
  | cons pair pairs ih =>
    cases pairs with
    | nil => simpa using h pair (.head _)
    | cons next pairs =>
      have hrest := ih fun p hp => h p (.tail _ hp)
      have hpair := h pair (.head _)
      rw [List.map_cons] at hrest
      rw [List.map_cons, List.map_cons, List.intercalate_cons_cons, List.mem_append,
        List.mem_append]
      rintro ((hc | hc) | hc)
      · exact hpair hc
      · exact hne (by simpa using hc)
      · exact hrest hc

namespace IsQueryText

variable {s : String}

theorem not_mem (h : IsQueryText s) : '#' ∉ s.toList := h '#' (by decide)

theorem not_isDropped (h : IsQueryText s) : ∀ c ∈ s.toList, Url.isDropped c = false := by
  intro c hc
  rw [Bool.eq_false_iff]
  intro hdropped
  simp only [Url.isDropped, Bool.or_eq_true, beq_iff_eq] at hdropped
  rcases hdropped with (rfl | rfl) | rfl
  · exact h '\t' (by decide) hc
  · exact h '\n' (by decide) hc
  · exact h '\r' (by decide) hc

/-- Texts that may stand in a query may do so with ampersands between them. -/
theorem intercalate {pairs : List String} (h : ∀ pair ∈ pairs, IsQueryText pair) :
    IsQueryText (String.intercalate "&" pairs) := by
  intro c hc
  refine not_mem_intercalate (fun heq => ?_) fun pair hpair => h pair hpair c hc
  rw [heq] at hc
  revert hc
  decide

end IsQueryText

/-- Queries that are added one after the other are added at once. -/
theorem Url.addQuery_addQuery (u : Url) {first : List Char} (h : first ≠ [])
    (second : List Char) :
    (u.addQuery first).addQuery second = u.addQuery (first ++ '&' :: second) := by
  unfold addQuery
  cases hu : u.query with
  | nil => simp [h]
  | cons c query => simp

section Append

variable {url query : String} {u : Url}

theorem appendQuery_of_split (h : Url.split url.toList = .ok u) (query : String) :
    appendQuery url query = .ok (String.ofList (u.addQuery query.toList).join) := by
  rw [appendQuery, h]
  rfl

/-- An address to which a query was added is split into the old parts and the new query. -/
theorem split_appendQuery (h : Url.split url.toList = .ok u) (hne : u.authority ≠ [])
    (hquery : IsQueryText query) :
    Url.split (String.ofList (u.addQuery query.toList).join).toList =
      .ok (u.addQuery query.toList) := by
  rw [String.toList_ofList]
  exact Url.split_addQuery h hne hquery.not_mem hquery.not_isDropped

/-- Queries that are appended one after the other are appended at once. -/
theorem appendQuery_appendQuery (h : Url.split url.toList = .ok u) (hne : u.authority ≠ [])
    {first : String} (hfirst : IsQueryText first) (hfilled : first ≠ "") (second : String) :
    appendQuery (String.ofList (u.addQuery first.toList).join) second =
      appendQuery url (first ++ "&" ++ second) := by
  have hlist : first.toList ≠ [] := by simpa using hfilled
  rw [appendQuery_of_split (split_appendQuery h hne hfirst), appendQuery_of_split h,
    u.addQuery_addQuery hlist]
  simp

/-- **Only the query changes** when one is appended to an address with an authority: the new address
can be split, and its query is the new one behind the old one, if there is one. And queries that are
appended one after the other give the address to which both are appended at once. -/
theorem only_query_changes (h : Url.split url.toList = .ok u) (hne : u.authority ≠ [])
    (hquery : IsQueryText query) :
    (∃ url' u', appendQuery url query = .ok url' ∧ Url.split url'.toList = .ok u' ∧
      u'.scheme = u.scheme ∧ u'.authority = u.authority ∧ u'.path = u.path ∧
      u'.fragment = u.fragment ∧
      u'.query = if u.query = [] then query.toList else u.query ++ '&' :: query.toList) ∧
    ∀ first, first ≠ "" → IsQueryText first →
      ∃ url₁ url₂, appendQuery url first = .ok url₁ ∧ appendQuery url₁ query = .ok url₂ ∧
        appendQuery url (first ++ "&" ++ query) = .ok url₂ := by
  refine ⟨⟨_, u.addQuery query.toList, appendQuery_of_split h query,
    split_appendQuery h hne hquery, rfl, rfl, rfl, rfl, ?query⟩, fun first hfilled hfirst => ?twice⟩
  case query =>
    unfold Url.addQuery
    simp only [List.isEmpty_iff]
  case twice =>
    have hsecond := appendQuery_of_split (split_appendQuery h hne hfirst) query
    exact ⟨_, _, appendQuery_of_split h first, hsecond,
      (appendQuery_appendQuery h hne hfirst hfilled query).symm.trans hsecond⟩

/-- An address with blanks in front, a capital scheme, an address between brackets, a tab, and marks
inside the query and the fragment. -/
def crowdedAddress : String := "  HTTP://u@[::1]:80//a\tb?c?d/#e?f#"

/-- Its parts. -/
def crowdedParts : Url where
  scheme := "http".toList
  authority := "u@[::1]:80".toList
  path := "//ab".toList
  query := "c?d/".toList
  fragment := "e?f#".toList

/-- The crowded address keeps its parts, and gets two queries one after the other as it gets both at
once. -/
theorem crowded_address_keeps_parts :
    (∃ url u, appendQuery crowdedAddress "k=?/&" = .ok url ∧ Url.split url.toList = .ok u ∧
      u = { crowdedParts with query := "c?d/&k=?/&".toList }) ∧
    ∃ url₁ url₂, appendQuery crowdedAddress "x" = .ok url₁ ∧ appendQuery url₁ "k=?/&" = .ok url₂ ∧
      appendQuery crowdedAddress "x&k=?/&" = .ok url₂ := by
  have hsplit : Url.split crowdedAddress.toList = .ok crowdedParts := rfl
  have hadded : IsQueryText "k=?/&" := by decide
  obtain ⟨⟨url, u, happend, hu, hscheme, hauthority, hpath, hfragment, hquery⟩, htwice⟩ :=
    only_query_changes hsplit (by decide) hadded
  refine ⟨⟨url, u, happend, hu, ?_⟩, htwice "x" (by decide) (by decide)⟩
  obtain ⟨scheme, authority, path, query, fragment⟩ := u
  cases hscheme
  cases hauthority
  cases hpath
  cases hfragment
  cases hquery
  rfl

end Append

end RequestAuth
