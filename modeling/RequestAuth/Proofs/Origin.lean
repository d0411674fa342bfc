import RequestAuth.Proofs.Url
import RequestAuth.Token.Endpoint

/-!
# The origin that a client's credentials go to

A token endpoint is given by an address with a scheme and an authority, or by a text that is pasted
behind the origin of the base (`tokenUrl_eq_ok`). A pasted text cannot leave the origin, whatever
delimiters it holds, since a slash stands in front of it, and nothing of the base behind its origin
is used.
-/

namespace RequestAuth

/-- A text with a slash in front, the one that it begins with if it does. -/
def rooted (s : List Char) : List Char := if s.head? = some '/' then s else '/' :: s

theorem head?_rooted (s : List Char) : (rooted s).head? = some '/' := by
  unfold rooted
  split
  · assumption
  · rfl

theorem startsWith_slash_iff {s : String} :
    s.startsWith "/" = true ↔ s.toList.head? = some '/' := by
  have hslash : "/".toList = ['/'] := rfl
  rw [String.startsWith_string_iff, hslash]
  cases s.toList with
  | nil => simp
  | cons c cs => simp [List.cons_prefix_cons, eq_comm]

/-! ### The address of the endpoint -/

/-- An address stands for itself: it has a scheme and an authority. -/
def Url.IsAbsolute (u : Url) : Prop := u.scheme ≠ [] ∧ u.authority ≠ []

instance (u : Url) : Decidable u.IsAbsolute :=
  inferInstanceAs (Decidable (u.scheme ≠ [] ∧ u.authority ≠ []))

/-- The address that a text has behind the origin of a base. -/
def Url.pasted (b : Url) (text : String) : String :=
  String.ofList (Url.join ⟨b.scheme, b.authority, rooted text.toList, [], []⟩)

variable {endpoint base : Option String} {text place r : String} {u b : Url}

theorem tokenUrl_of_split (htext : text ≠ "") (hu : Url.split text.toList = .ok u) :
    tokenUrl (some text) base =
      if u.IsAbsolute then .ok text
      else if (base.getD "").isEmpty then .error (.baseMissing text)
      else (Url.split (base.getD "").toList).map fun b => b.pasted text := by
  have habsolute : (!u.scheme.isEmpty && !u.authority.isEmpty) = decide u.IsAbsolute := by
    rw [Bool.eq_iff_iff, decide_eq_true_eq]
    simp [Url.IsAbsolute]
  have hrooted : (if text.startsWith "/" then text.toList else '/' :: text.toList) =
      rooted text.toList := by
    simp only [rooted, startsWith_slash_iff]
  unfold tokenUrl
  rw [Option.getD_some, if_neg (by simpa using htext), hu]
  simp only [hrooted, bind, Except.bind, habsolute, decide_eq_true_eq]
  split
  · rfl
  · split
    · rfl
    · cases Url.split (base.getD "").toList with
      | error fault => rfl
      | ok b => rfl

/-- An endpoint has an address when it is one, or when there is a base that it can be pasted to. -/
theorem tokenUrl_eq_ok : tokenUrl endpoint base = .ok r ↔
    ∃ text u, endpoint = some text ∧ text ≠ "" ∧ Url.split text.toList = .ok u ∧
      (u.IsAbsolute ∧ r = text ∨ ¬ u.IsAbsolute ∧ ∃ place b, base = some place ∧ place ≠ "" ∧
        Url.split place.toList = .ok b ∧ r = b.pasted text) := by
  constructor
  · intro h
    obtain ⟨text, rfl, htext⟩ : ∃ text, endpoint = some text ∧ text ≠ "" := by
      cases endpoint with
      | none => cases h
      | some text =>
        refine ⟨text, rfl, ?_⟩
        rintro rfl
        cases h
    obtain ⟨u, hu⟩ : ∃ u, Url.split text.toList = .ok u := by
      unfold tokenUrl at h
      rw [Option.getD_some, if_neg (by simpa using htext)] at h
      obtain ⟨u, hu, -⟩ := bind_eq_ok.mp h
      exact ⟨u, hu⟩
    refine ⟨text, u, rfl, htext, hu, ?_⟩
    rw [tokenUrl_of_split htext hu] at h
    split at h
    · rename_i habsolute
      cases h
      exact .inl ⟨habsolute, rfl⟩
    · rename_i hrelative
      split at h
      · cases h
      · rename_i hbase
        cases base with
        | none => exact absurd rfl hbase
        | some place =>
          cases hb : Url.split place.toList with
          | error fault =>
            rw [Option.getD_some, hb] at h
            cases h
          | ok b =>
            rw [Option.getD_some, hb] at h
            cases h
            exact .inr ⟨hrelative, place, b, rfl, by simpa using hbase, hb, rfl⟩
  · rintro ⟨text, u, rfl, htext, hu, ⟨habsolute, rfl⟩ | ⟨hrelative, place, b, rfl, hplace, hb, rfl⟩⟩
    · rw [tokenUrl_of_split htext hu, if_pos habsolute]
    · rw [tokenUrl_of_split htext hu, if_neg hrelative, Option.getD_some,
        if_neg (by simpa using hplace), hb]
      rfl

/-! ### Staying at the origin -/

/-- A pasted text stands behind the origin of the base, and cannot leave it. -/
theorem split_pasted (h : Url.split place.toList = .ok b) (hne : b.authority ≠ [])
    (text : String) :
    (b.pasted text).toList = b.origin ++ rooted text.toList ∧
      ∃ v, Url.split (b.pasted text).toList = .ok v ∧ v.scheme = b.scheme ∧
        v.authority = b.authority := by
  have hlist : (b.pasted text).toList = b.origin ++ rooted text.toList := by
    have hjoin := Url.join_eq_origin_append
      (u := ⟨b.scheme, b.authority, rooted text.toList, [], []⟩) hne (by simp [head?_rooted])
    rw [Url.pasted, String.toList_ofList, hjoin]
    simp [Url.origin, Url.tail, Url.marked]
  refine ⟨hlist, ?_⟩
  rw [hlist]
  exact (Url.wellFormed_of_split h hne).split_origin_append (head?_rooted _)

/-- The request of a client goes to the address of its endpoint. -/
theorem Client.url_of_request {client : Client} {request : TokenRequest}
    (h : client.request = .ok request) : client.url = .ok request.url := by
  unfold Client.request at h
  split at h
  · cases h
  · cases h
  · obtain ⟨url, hurl, h⟩ := bind_eq_ok.mp h
    cases h
    exact hurl

/-- **Credentials go to the configured origin.** An endpoint with a scheme and an authority is taken
as it is, whatever the base is. Any other endpoint stands behind the origin of the base, with a slash
in front if it has none: whatever delimiters it holds, the scheme and the authority are those of the
base, of which nothing else counts. Requests of a client with these settings go there. -/
theorem credentials_stay_at_origin (h : tokenUrl endpoint base = .ok r) :
    ∃ text u, endpoint = some text ∧ Url.split text.toList = .ok u ∧
      (u.IsAbsolute → r = text ∧ ∀ base', tokenUrl endpoint base' = .ok r) ∧
      (¬ u.IsAbsolute → ∃ place b, base = some place ∧ Url.split place.toList = .ok b ∧
        (b.authority ≠ [] → r.toList = b.origin ++ rooted text.toList ∧
          (∃ v, Url.split r.toList = .ok v ∧ v.scheme = b.scheme ∧ v.authority = b.authority) ∧
          ∀ place' b', Url.split place'.toList = .ok b' → b'.scheme = b.scheme →
            b'.authority = b.authority → tokenUrl endpoint (some place') = .ok r)) ∧
      ∀ (client : Client) request, client.tokenEndpoint = endpoint → client.baseUri = base →
        client.request = .ok request → request.url = r := by
  obtain ⟨text, u, hendpoint, htext, hu, hr⟩ := tokenUrl_eq_ok.mp h
  refine ⟨text, u, hendpoint, hu, fun habsolute => ?absolute, fun hrelative => ?relative,
    fun client request hclient hbase hrequest => ?client⟩
  case absolute =>
    rcases hr with ⟨-, rfl⟩ | ⟨hrelative, -⟩
    · exact ⟨rfl, fun base' => tokenUrl_eq_ok.mpr
        ⟨r, u, hendpoint, htext, hu, .inl ⟨habsolute, rfl⟩⟩⟩
    · exact absurd habsolute hrelative
  case relative =>
    rcases hr with ⟨habsolute, -⟩ | ⟨-, place, b, hplace, hne, hb, rfl⟩
    · exact absurd habsolute hrelative
    · refine ⟨place, b, hplace, hb, fun hauthority => ?_⟩
      obtain ⟨hlist, hsplit⟩ := split_pasted hb hauthority text
      refine ⟨hlist, hsplit, fun place' b' hb' hscheme hauthority' => ?_⟩
      have hplace' : place' ≠ "" := by
        rintro rfl
        cases hb'
        exact hauthority hauthority'.symm
      have hpasted : b.pasted text = b'.pasted text := by
        rw [Url.pasted, Url.pasted, hscheme, hauthority']
      exact tokenUrl_eq_ok.mpr ⟨text, u, hendpoint, htext, hu,
        .inr ⟨hrelative, place', b', rfl, hplace', hb', hpasted⟩⟩
  case client =>
    have hurl := Client.url_of_request hrequest
    rw [Client.url, hclient, hbase, h] at hurl
    exact (Except.ok.inj hurl).symm

/-- A network path with a query, a user and a port in it, below a base with all parts. -/
theorem network_path_stays :
    tokenUrl (some "//other.host:1/token?a@b#c") (some "HTTPS://u@Host:8443/v1?x#y") =
        .ok "https://u@Host:8443//other.host:1/token?a@b#c" ∧
      ∃ v, Url.split "https://u@Host:8443//other.host:1/token?a@b#c".toList = .ok v ∧
        v.scheme = "https".toList ∧ v.authority = "u@Host:8443".toList := by
  have hu : Url.split "//other.host:1/token?a@b#c".toList =
      .ok ⟨[], "other.host:1".toList, "/token".toList, "a@b".toList, "c".toList⟩ := rfl
  have hb : Url.split "HTTPS://u@Host:8443/v1?x#y".toList =
      .ok ⟨"https".toList, "u@Host:8443".toList, "/v1".toList, "x".toList, "y".toList⟩ := rfl
  have hrelative : ¬ (Url.mk [] "other.host:1".toList "/token".toList "a@b".toList
      "c".toList).IsAbsolute := by decide
  have h : tokenUrl (some "//other.host:1/token?a@b#c") (some "HTTPS://u@Host:8443/v1?x#y") =
      .ok "https://u@Host:8443//other.host:1/token?a@b#c" :=
    tokenUrl_eq_ok.mpr ⟨_, _, rfl, by decide, hu, .inr ⟨hrelative, _, _, rfl, by decide, hb, rfl⟩⟩
  obtain ⟨text, u, htext, hsplit, -, hpasted, -⟩ := credentials_stay_at_origin h
  cases htext
  cases hu.symm.trans hsplit
  obtain ⟨place, b, hplace, hbase, hstays⟩ := hpasted hrelative
  cases hplace
  cases hb.symm.trans hbase
  exact ⟨h, (hstays (by decide)).2.1⟩

end RequestAuth
