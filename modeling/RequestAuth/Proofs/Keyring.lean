import RequestAuth.Credential.Keyring
import RequestAuth.Proofs.Member
import RequestAuth.Proofs.Written

/-!
# Building credentials

What the parts of a key ring do: the name that a key goes by, the credential that is an API key, the
scheme of a name, and the schemes of several names, which are built one after the other.
-/

namespace RequestAuth

namespace Config

variable {config : Config} {location parameterName : Value}

/-- There may be no name for a key, but no other fault. -/
theorem apiKeyNameFor_eq_error {cause : Fault}
    (h : config.apiKeyNameFor parameterName = .error cause) :
    cause = .settingMissing "API Key authentication method" "api_key_name" := by
  unfold apiKeyNameFor at h
  split at h
  · cases h
  · split at h
    · cases h
    · cases h
      rfl

/-- The name of a key is the declared one, or a text. -/
theorem apiKeyNameFor_cases {name : Value} (h : config.apiKeyNameFor parameterName = .ok name) :
    (parameterName.isTrue = true ∧ parameterName = name) ∨ ∃ s, name = .text s := by
  unfold apiKeyNameFor at h
  split at h
  · rename_i htrue
    cases h
    exact .inl ⟨htrue, rfl⟩
  · split at h
    · rename_i configured _
      cases h
      exact .inr ⟨configured, rfl⟩
    · cases h

/-- A key is sent as a header, or in a pair under its written name. -/
theorem keyAt_eq_ok {name : Value} {key : String} {d : Credential}
    (h : keyAt location name key = .ok d) :
    d = ⟨[(name, key)], [], []⟩ ∨ ∃ written, name.written = .ok written ∧
      (d = ⟨[], [], [Form.pair written key]⟩ ∨ d = ⟨[], [Form.pair written key], []⟩) := by
  unfold keyAt at h
  split at h
  · dsimp only at h
    split at h
    · cases h
      exact .inl rfl
    · split at h
      · obtain ⟨written, hwritten, hd⟩ := bind_eq_ok.mp h
        cases hd
        exact .inr ⟨written, hwritten, .inl rfl⟩
      · split at h
        · obtain ⟨written, hwritten, hd⟩ := bind_eq_ok.mp h
          cases hd
          exact .inr ⟨written, hwritten, .inr rfl⟩
        · obtain ⟨shown, -, hd⟩ := bind_eq_ok.mp h
          cases hd
  · cases h

theorem apiKeyCredential_of_name {name : Value}
    (h : config.apiKeyNameFor parameterName = .ok name) :
    config.apiKeyCredential location parameterName =
      config.apiKey name >>= keyAt location name := by
  unfold apiKeyCredential
  rw [h]
  rfl

theorem apiKeyCredential_of_no_name {cause : Fault}
    (h : config.apiKeyNameFor parameterName = .error cause) :
    config.apiKeyCredential location parameterName = .error cause := by
  unfold apiKeyCredential
  rw [h]
  rfl

end Config

namespace Keyring

variable {τ : Type} {k : Keyring τ} {name : Value}

theorem buildNamed_of_lookup {scheme : Scheme} (h : k.schemes.lookup name = .ok scheme) (t : τ) :
    k.buildNamed name t = k.build scheme t := by
  rw [buildNamed, h]

/-- Schemes are built one after the other. -/
theorem gather_append (k : Keyring τ) (names rest : List Value) (c : Credential) (t : τ) :
    k.gather (names ++ rest) c t =
      match k.gather names c t with
      | (.error fault, u) => (.error fault, u)
      | (.ok d, u) => k.gather rest d u := by
  induction names generalizing c t with
  | nil => rfl
  | cons name names ih =>
    rw [List.cons_append, gather, gather]
    rcases k.buildNamed name t with ⟨fault | d, u⟩
    · rfl
    · exact ih _ u

/-- The schemes of some names are built, each into a credential of its own. -/
inductive Builds (k : Keyring τ) : List Value → τ → List Credential → τ → Prop where
  /-- There is nothing to build. -/
  | nil {t : τ} : Builds k [] t [] t
  /-- The first one is built, and the others behind it. -/
  | cons {name : Value} {names : List Value} {d : Credential} {ds : List Credential} {t u v : τ} :
    k.buildNamed name t = (.ok d, u) → Builds k names u ds v →
      Builds k (name :: names) t (d :: ds) v

/-- What is gathered are the credentials of the single schemes. -/
theorem gather_eq_ok {names : List Value} {c e : Credential} {t v : τ} :
    k.gather names c t = (.ok e, v) ↔
      ∃ ds, k.Builds names t ds v ∧ e = ds.foldl Credential.merge c := by
  constructor
  · intro h
    induction names generalizing c t with
    | nil =>
      cases h
      exact ⟨[], .nil, rfl⟩
    | cons name names ih =>
      rw [gather] at h
      rcases hbuild : k.buildNamed name t with ⟨fault | d, u⟩
      · rw [hbuild] at h
        cases h
      · rw [hbuild] at h
        obtain ⟨ds, hds, rfl⟩ := ih h
        exact ⟨d :: ds, .cons hbuild hds, rfl⟩
  · rintro ⟨ds, hds, rfl⟩
    induction hds generalizing c with
    | nil => rfl
    | cons hbuild _ ih =>
      rw [gather, hbuild]
      exact ih

/-- There is one way to build the schemes of some names. -/
theorem Builds.unique {names : List Value} {ds es : List Credential} {t u v : τ}
    (h : k.Builds names t ds u) (h' : k.Builds names t es v) : es = ds := by
  induction h generalizing es v with
  | nil =>
    cases h'
    rfl
  | cons hbuild _ ih =>
    cases h' with
    | cons hbuild' h' =>
      cases hbuild'.symm.trans hbuild
      rw [ih h']

/-- Each of the credentials is that of one of the schemes. -/
theorem Builds.exists_of_mem {names : List Value} {ds : List Credential} {t v : τ}
    (h : k.Builds names t ds v) {d : Credential} (hd : d ∈ ds) :
    ∃ name ∈ names, ∃ s u, k.buildNamed name s = (.ok d, u) := by
  induction h with
  | nil => cases hd
  | cons hbuild _ ih =>
    rcases List.mem_cons.mp hd with rfl | hd
    · exact ⟨_, .head _, _, _, hbuild⟩
    · obtain ⟨name, hname, built⟩ := ih hd
      exact ⟨name, .tail _ hname, built⟩

end Keyring

/-! ### Merging -/

namespace Credential

variable {c : Credential} {ds : List Credential}

@[simp] theorem headers_merge {d : Credential} : (c.merge d).headers = c.headers ++ d.headers := rfl

@[simp] theorem query_merge {d : Credential} : (c.merge d).query = c.query ++ d.query := rfl

@[simp] theorem cookies_merge {d : Credential} : (c.merge d).cookies = c.cookies ++ d.cookies := rfl

theorem headers_foldl_merge :
    (ds.foldl merge c).headers = c.headers ++ ds.flatMap headers := by
  induction ds generalizing c with
  | nil => simp
  | cons d ds ih => simp [ih]

theorem query_foldl_merge : (ds.foldl merge c).query = c.query ++ ds.flatMap query := by
  induction ds generalizing c with
  | nil => simp
  | cons d ds ih => simp [ih]

theorem cookies_foldl_merge : (ds.foldl merge c).cookies = c.cookies ++ ds.flatMap cookies := by
  induction ds generalizing c with
  | nil => simp
  | cons d ds ih => simp [ih]

end Credential

end RequestAuth
