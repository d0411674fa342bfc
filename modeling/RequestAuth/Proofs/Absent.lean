import RequestAuth.Proofs.Entries
import RequestAuth.Proofs.Lacking

/-!
# Values that are not given

A mapping of settings may leave out the value that a scheme needs, or give null for it. Then the
scheme cannot be built, and no alternative that names it is satisfied (`Ungiven`). Null is no value
for a setting (`IsAbsent`), but it is one in the key table: there it is written like any other value,
and sent as the key `None`.
-/

namespace RequestAuth

variable {v table : Value} {entries : List (Value × Value)} {name : String} {config : Config}
  {s : Setting}

/-! ### What a mapping gives -/

/-- A setting is absent from a mapping: it is not given, or as null. -/
def IsAbsent (entries : List (Value × Value)) (s : Setting) : Prop :=
  ∀ w, given? entries s = some w → w = .null

theorem isAbsent_iff : IsAbsent entries s ↔ givenText? entries s = none := by
  unfold IsAbsent givenText?
  cases given? entries s with
  | none => simp
  | some w => cases w <;> simp [settingText]

/-- The key table of a mapping, null if there is none. -/
def keyTable (entries : List (Value × Value)) : Value := (given? entries .apiKeys).getD .null

/-- What a key table gives under a name: in a mapping the value of the last key that is written like
the name, and in a text what it lists. -/
def givenKey? (table : Value) (name : String) : Option Value :=
  match table.opened with
  | .map entries => (entries.reverse.find? fun e => e.1.toText == name).map Prod.snd
  | .text s => (readKeyText s).toOption.bind fun keys => (keys.lookup name).map .text
  | _ => none

theorem givenKey?_of_map (h : table.opened = .map entries) (name : String) :
    givenKey? table name =
      (entries.reverse.find? fun e => e.1.toText == name).map Prod.snd := by
  unfold givenKey?
  rw [h]

theorem givenKey?_of_text {text : String} {keys : List (String × String)}
    (h : table.opened = .text text) (hkeys : readKeyText text = .ok keys) (name : String) :
    givenKey? table name = (keys.lookup name).map .text := by
  unfold givenKey?
  rw [h]
  simp only [hkeys, Except.toOption, Option.bind_some]

theorem lookup_map_toText (entries : List (Value × Value)) (name : String) :
    (entries.map fun e => (e.1.toText, e.2.toText)).lookup name =
      (entries.find? fun e => e.1.toText == name).map fun e => e.2.toText := by
  induction entries with
  | nil => rfl
  | cons e entries ih =>
    rw [List.map_cons, List.lookup_cons, List.find?_cons]
    by_cases he : e.1.toText = name
    · simp [he]
    · have hkey : (e.1.toText == name) = false := beq_eq_false_iff_ne.mpr he
      have hname : (name == e.1.toText) = false := beq_eq_false_iff_ne.mpr (Ne.symm he)
      simp only [hkey, hname, ih]

/-- A key is the text of what the key table gives. -/
theorem lookup_readKeys {keys : List (String × String)} (h : readKeys table = .ok keys)
    (name : String) : keys.lookup name = (givenKey? table name).map Value.toText := by
  unfold readKeys at h
  split at h
  · rename_i hfalse
    cases h
    -- a table that is not true has no entries, or is no table
    cases table with
    | map entries =>
      obtain rfl : entries = [] := by simpa [Value.isTrue] using hfalse
      rfl
    | text s =>
      obtain rfl : s = "" := by simpa [Value.isTrue] using hfalse
      rfl
    | cyclic equations n => cases hfalse
    | _ => rfl
  · split at h
    · rename_i entries hopened
      obtain ⟨pairs, hpairs, h⟩ := bind_eq_ok.mp h
      cases h
      have hwritten := (Value.mapM_writtenEntry entries).symm.trans hpairs
      rw [lookup_ofEntries (.of_lawful name), ← (unlessFault_eq_ok.mp hwritten).2,
        ← List.map_reverse, lookup_map_toText, givenKey?_of_map hopened, Option.map_map]
      rfl
    · rename_i text hopened
      have htext : Value.toText ∘ Value.text = id := rfl
      rw [givenKey?_of_text hopened h, Option.map_map, htext, Option.map_id, id]
    · cases h

theorem Config.eq_of_ofEntries (h : Config.ofEntries entries = .ok config) :
    readKeys (keyTable entries) = .ok config.apiKeys ∧
      config.apiKeyValue = givenText? entries .apiKeyValue ∧
      config.bearerToken = givenText? entries .bearerToken ∧
      config.username = givenText? entries .username ∧
      config.password = givenText? entries .password := by
  obtain ⟨-, -, h⟩ := bind_eq_ok.mp h
  obtain ⟨-, -, h⟩ := bind_eq_ok.mp h
  obtain ⟨type, -, h⟩ := bind_eq_ok.mp h
  obtain ⟨keys, hkeys, h⟩ := bind_eq_ok.mp h
  cases h
  exact ⟨hkeys, rfl, rfl, rfl, rfl⟩

/-! ### What a scheme needs -/

/-- A mapping gives no value for what a scheme needs. -/
inductive Ungiven (entries : List (Value × Value)) (config : Config) : Scheme.Kind → Prop where
  /-- There is no key table, and no key. -/
  | key {location parameterName : Value} : config.apiKeys = [] → IsAbsent entries .apiKeyValue →
    Ungiven entries config (.apiKey location parameterName)
  /-- The key table has nothing under the name of the key. -/
  | entry {location parameterName name : Value} : config.apiKeys ≠ [] →
    config.apiKeyNameFor parameterName = .ok name →
    (∀ s, name = .text s → givenKey? (keyTable entries) s = none) →
    Ungiven entries config (.apiKey location parameterName)
  /-- There is no token to bear. -/
  | token {subscheme bearerFormat : Value} {word : String} :
    subscheme.orElse (Value.ofText? config.authenticationScheme) = .text word →
    upperText word = "BEARER" → IsAbsent entries .bearerToken →
    Ungiven entries config (.http subscheme bearerFormat)
  /-- There is no user or no password for another sub-scheme. -/
  | user {subscheme bearerFormat : Value} :
    (∀ word, subscheme.orElse (Value.ofText? config.authenticationScheme) = .text word →
      upperText word ≠ "BEARER") →
    IsAbsent entries .username ∨ IsAbsent entries .password →
    Ungiven entries config (.http subscheme bearerFormat)

/-- A text, or null in the place of one. -/
def Value.IsTextOrNull (v : Value) : Prop := v = .null ∨ ∃ s, v = .text s

theorem Value.IsTextOrNull.orElse (h : v.IsTextOrNull) (s : Option String) :
    (v.orElse (Value.ofText? s)).IsTextOrNull := by
  unfold Value.orElse
  split
  · exact h
  · cases s with
    | none => exact .inl rfl
    | some s => exact .inr ⟨s, rfl⟩

/-- The name of the key or of the sub-scheme is a text, if there is one. -/
def Scheme.Kind.IsTexted : Scheme.Kind → Prop
  | .apiKey _ parameterName => parameterName.IsTextOrNull
  | .http subscheme _ => subscheme.IsTextOrNull
  | _ => True

namespace Config

variable {location parameterName subscheme : Value}

theorem apiKeyCredential_of_keyless (hkeys : config.apiKeys = [])
    (hvalue : config.apiKeyValue = none) (location parameterName : Value) :
    ∃ fault, config.apiKeyCredential location parameterName = .error fault ∧
      fault.IsMissing := by
  cases hname : config.apiKeyNameFor parameterName with
  | error fault =>
    refine ⟨fault, apiKeyCredential_of_no_name hname, .inl ?_⟩
    rw [apiKeyNameFor_eq_error hname]
    rfl
  | ok name =>
    rw [apiKeyCredential_of_name hname, apiKey, if_pos (by simp [hkeys]), hvalue]
    exact ⟨_, rfl, .inl rfl⟩

/-- A key whose declared name is a text, if there is one, goes by a text. -/
theorem text_of_apiKeyNameFor {name : Value} (hdeclared : parameterName.IsTextOrNull)
    (h : config.apiKeyNameFor parameterName = .ok name) : ∃ s, name = .text s := by
  rcases apiKeyNameFor_cases h with ⟨htrue, rfl⟩ | htext
  · rcases hdeclared with rfl | htext
    · cases htrue
    · exact htext
  · exact htext

/-- An entry of the key table is sent as it is written. -/
theorem apiKeyCredential_of_entry {key : String}
    (hname : config.apiKeyNameFor parameterName = .ok (.text name))
    (hkey : config.apiKeys.lookup name = some key) (location : Value) :
    config.apiKeyCredential location parameterName = keyAt location (.text name) key := by
  have hkeys : config.apiKeys ≠ [] := by
    intro hempty
    rw [hempty] at hkey
    cases hkey
  have hshowable : (Value.text name).isKey = true := rfl
  have hlookup : (Value.text name).text?.bind (fun s => config.apiKeys.lookup s) = some key := hkey
  rw [apiKeyCredential_of_name hname, apiKey, if_neg (by simpa using hkeys),
    if_neg (by simp [hshowable]), hlookup]
  rfl

end Config

/-! ### Building from what is not given -/

namespace Keyring

variable {τ : Type} {k : Keyring τ} {scheme : Scheme} {r : Requirement} {front rest : List Value}
  {key : Value} {fault : Fault}

/-- A scheme for which nothing is given cannot be built. -/
theorem build_of_ungiven (hconfig : Config.ofEntries entries = .ok k.config)
    (h : Ungiven entries k.config scheme.kind) :
    ∃ fault, (∀ t, k.build scheme t = (.error fault, t)) ∧
      (scheme.kind.IsTexted → fault.IsMissing) := by
  obtain ⟨hkeys, hvalue, htoken, husername, hpassword⟩ := Config.eq_of_ofEntries hconfig
  unfold build
  generalize scheme.kind = kind at h ⊢
  cases h with
  | @key location parameterName hempty habsent =>
    have hnone : k.config.apiKeyValue = none := hvalue.trans (isAbsent_iff.mp habsent)
    obtain ⟨fault, hfault, hmissing⟩ :=
      Config.apiKeyCredential_of_keyless hempty hnone location parameterName
    exact ⟨fault, fun t => by simp only [hfault], fun _ => hmissing⟩
  | @entry location parameterName name htable hname hentry =>
    have hlookup : ∀ s, name = .text s → k.config.apiKeys.lookup s = none := by
      intro s hs
      rw [lookup_readKeys hkeys, hentry s hs]
      rfl
    obtain ⟨fault, hfault, hmissing⟩ := Config.apiKey_of_unlisted htable hlookup
    have hcredential : k.config.apiKeyCredential location parameterName = .error fault := by
      rw [Config.apiKeyCredential_of_name hname, hfault]
      rfl
    refine ⟨fault, fun t => by simp only [hcredential], fun htexted => ?_⟩
    obtain ⟨s, rfl⟩ := Config.text_of_apiKeyNameFor htexted hname
    obtain ⟨shown, rfl⟩ := hmissing (Value.isShowable_text s)
    exact .inr rfl
  | @token subscheme bearerFormat word hword hbearer habsent =>
    have hnone : k.config.bearerToken = none := htoken.trans (isAbsent_iff.mp habsent)
    obtain ⟨fault, hfault, hmissing⟩ := Config.httpCredential_of_tokenless hword hbearer hnone
    exact ⟨fault, fun t => by simp only [hfault], fun _ => hmissing⟩
  | @user subscheme bearerFormat hother habsent =>
    have hnone : k.config.username = none ∨ k.config.password = none := by
      rw [husername, hpassword, ← isAbsent_iff, ← isAbsent_iff]
      exact habsent
    obtain ⟨fault, hfault, hmissing⟩ := Config.httpCredential_of_userless hother hnone
    refine ⟨fault, fun t => by simp only [hfault], fun htexted => hmissing ?_⟩
    rcases htexted.orElse k.config.authenticationScheme with hnull | htext
    · exact .inl hnull
    · exact .inr (.inl htext)

/-- An alternative with a scheme that cannot be built ends in its fault, or in that of a scheme in
front of it. -/
theorem credential_of_unbuildable (hnames : r.map Prod.fst = front ++ key :: rest)
    (hbuild : ∀ t, k.buildNamed key t = (.error fault, t)) (t : τ) :
    ∃ cause u, k.credential r t = (.error cause, u) ∧
      (cause = fault ∨ k.gather front .empty t = (.error cause, u)) := by
  unfold credential
  rw [hnames, gather_append]
  rcases hfront : k.gather front .empty t with ⟨cause | c, u⟩
  · exact ⟨cause, u, rfl, .inr rfl⟩
  · refine ⟨fault, u, ?_, .inl rfl⟩
    simp only [gather, hbuild]

theorem not_satisfied_of_unbuildable (hnames : r.map Prod.fst = front ++ key :: rest)
    (hbuild : ∀ t, k.buildNamed key t = (.error fault, t)) (t u : τ) (c : Credential) :
    k.tryRequirement r t ≠ (.ok (.satisfied c), u) := by
  intro hsatisfied
  obtain ⟨cause, v, hcredential, -⟩ := credential_of_unbuildable hnames hbuild t
  cases hcredential.symm.trans (credential_of_satisfied hsatisfied)

/-- When the fault of the scheme only means that it cannot be satisfied, the alternative cannot be
satisfied either, unless a scheme in front ends everything. -/
theorem unsatisfiable_or_fault_in_front (hnames : r.map Prod.fst = front ++ key :: rest)
    (hbuild : ∀ t, k.buildNamed key t = (.error fault, t)) (hfault : fault.isUnsatisfiable = true)
    (t : τ) :
    (∃ cause u, k.tryRequirement r t = (.ok (.unsatisfiable cause), u)) ∨
      ∃ cause u, k.gather front .empty t = (.error cause, u) ∧ cause.isUnsatisfiable = false ∧
        k.tryRequirement r t = (.error cause, u) := by
  obtain ⟨cause, u, hcredential, hcause⟩ := credential_of_unbuildable hnames hbuild t
  have htry : k.tryRequirement r t = (Outcome.ofResult (.error cause), u) := by
    rw [tryRequirement, hcredential]
  by_cases hunsatisfiable : cause.isUnsatisfiable = true
  · refine .inl ⟨cause, u, ?_⟩
    rw [htry, Outcome.ofResult, if_pos hunsatisfiable]
  · rcases hcause with rfl | hfront
    · exact absurd hfault hunsatisfiable
    · refine .inr ⟨cause, u, hfront, by simpa using hunsatisfiable, ?_⟩
      rw [htry, Outcome.ofResult, if_neg hunsatisfiable]

end Keyring

/-- **A value that is not given is not sent.** A scheme for which a mapping gives no value cannot be
built, since the value is missing, and no alternative that names the scheme is satisfied: it is
unsatisfiable, unless a scheme in front of that one ends in a fault of its own. The key table is the
exception: null under the name of a key is sent as `None`. -/
theorem ungiven_is_not_sent (hentries : v.entries = .ok entries)
    (hconfig : Config.ofValue v = .ok config) :
    (∀ (τ : Type) (k : Keyring τ) scheme, k.config = config →
      Ungiven entries config scheme.kind →
        (∃ fault, (∀ t, k.build scheme t = (.error fault, t)) ∧
          (scheme.kind.IsTexted → fault.IsMissing)) ∧
        ∀ r front name rest t, r.map Prod.fst = front ++ name :: rest →
          k.schemes.lookup name = .ok scheme →
            (∀ c u, k.tryRequirement r t ≠ (.ok (.satisfied c), u)) ∧
            (scheme.kind.IsTexted →
              (∃ cause u, k.tryRequirement r t = (.ok (.unsatisfiable cause), u)) ∨
                ∃ fault u, k.gather front .empty t = (.error fault, u) ∧
                  fault.isUnsatisfiable = false ∧ k.tryRequirement r t = (.error fault, u))) ∧
    ∀ location parameterName name,
      config.apiKeyNameFor parameterName = .ok (.text name) →
      givenKey? (keyTable entries) name = some .null →
        config.apiKeyCredential location parameterName =
          Config.keyAt location (.text name) "None" := by
  have hconfig : Config.ofEntries entries = .ok config := by
    unfold Config.ofValue at hconfig
    rw [hentries] at hconfig
    exact hconfig
  constructor
  · rintro τ k scheme rfl h
    obtain ⟨fault, hbuild, hmissing⟩ := Keyring.build_of_ungiven hconfig h
    refine ⟨⟨fault, hbuild, hmissing⟩, ?_⟩
    intro r front name rest t hnames hlookup
    have hnamed : ∀ t, k.buildNamed name t = (.error fault, t) := by
      intro t
      rw [Keyring.buildNamed_of_lookup hlookup, hbuild]
    refine ⟨fun c u => Keyring.not_satisfied_of_unbuildable hnames hnamed t u c, ?_⟩
    intro htexted
    exact Keyring.unsatisfiable_or_fault_in_front hnames hnamed
      (hmissing htexted).isUnsatisfiable t
  · intro location parameterName name hname hnull
    have hkey : config.apiKeys.lookup name = some "None" := by
      rw [lookup_readKeys (Config.eq_of_ofEntries hconfig).1, hnull]
      rfl
    exact Config.apiKeyCredential_of_entry hname hkey location

/-! ### Null in the key table -/

/-- A mapping with a key table that has null under a name. -/
def nullKeyed : Value := .map [(.text "api_keys", .map [(.text "X-Key", .null)])]

/-- The configuration that it gives. -/
def nullKeyedConfig : Config :=
  ⟨none, .none, some "basic", none, none, none, none, none, [("X-Key", "None")], none, none, none,
    none, .int 30, .int 0⟩

/-- The key is sent as `None`, and other values that are not given are not sent. -/
theorem null_key_is_sent :
    Config.ofValue nullKeyed = .ok nullKeyedConfig ∧
      nullKeyedConfig.apiKeyCredential (.text "header") (.text "X-Key") =
        .ok ⟨[(.text "X-Key", "None")], [], []⟩ ∧
      ∃ fault, ∀ t, (Keyring.mk nullKeyedConfig [] (some Authenticator.countedBearer)).build
        ⟨.text "bearer", .null, .http (.text "bearer") .null⟩ t = (.error fault, t) := by
  have hconfig : Config.ofValue nullKeyed = .ok nullKeyedConfig := rfl
  have hentries : nullKeyed.entries =
      .ok [(.text "api_keys", .map [(.text "X-Key", .null)])] := rfl
  obtain ⟨hungiven, hnull⟩ := ungiven_is_not_sent hentries hconfig
  refine ⟨hconfig, ?_, ?_⟩
  · exact hnull (.text "header") (.text "X-Key") "X-Key" rfl rfl
  · have habsent : IsAbsent [(.text "api_keys", .map [(.text "X-Key", .null)])] .bearerToken := by
      intro w hw
      cases hw
    obtain ⟨⟨fault, hbuild, -⟩, -⟩ := hungiven Nat
      (Keyring.mk nullKeyedConfig [] (some Authenticator.countedBearer))
      ⟨.text "bearer", .null, .http (.text "bearer") .null⟩ rfl (.token rfl (by decide) habsent)
    exact ⟨fault, hbuild⟩

end RequestAuth
