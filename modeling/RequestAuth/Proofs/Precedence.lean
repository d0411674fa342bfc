import RequestAuth.Proofs.KeyText
import RequestAuth.Proofs.Settings

/-!
# What decides on a setting

The environment decides on a secret for which it has a variable with characters
(`Setting.IsSecret`), and the mapping on every other setting (`Setting.Settles`). To take up the
environment is to give all settings once more with the secrets in their places
(`Config.ofEntries_overridden`): a setting that is given as what is stored of it is stored as the
same (`Config.stored_value`).
-/

namespace RequestAuth

namespace Setting

/-- The name of the variable of the environment that a secret may be in. -/
def secretName? : Setting → Option String
  | .username => some "OPENAPI_AUTH_USERNAME"
  | .password => some "OPENAPI_AUTH_PASSWORD"
  | .bearerToken => some "OPENAPI_AUTH_BEARER_TOKEN"
  | .apiKeyValue => some "OPENAPI_AUTH_API_KEY_VALUE"
  | .clientId => some "OPENAPI_AUTH_CLIENT_ID"
  | .clientSecret => some "OPENAPI_AUTH_CLIENT_SECRET"
  | _ => none

/-- The environment has a secret for a setting. -/
def IsSecret (environment : List (String × String)) (s : Setting) (x : String) : Prop :=
  ∃ name, s.secretName? = some name ∧ environment.lookup name = some x ∧ x ≠ ""

/-- The secret that the environment has for a setting, if any. -/
def secret? (environment : List (String × String)) (s : Setting) : Option String :=
  s.secretName?.bind (Config.secretOf? environment)

/-- What a setting is, with an environment and a mapping. -/
inductive Decides (environment : List (String × String)) (entries : List (Value × Value))
    (s : Setting) : Value → Prop where
  /-- The environment has a secret for it. -/
  | environment {x : String} : IsSecret environment s x → Decides environment entries s (.text x)
  /-- The environment has none. -/
  | mapping {w : Value} : (∀ x, ¬IsSecret environment s x) → Settles entries s w →
    Decides environment entries s w

/-- Whether a key denotes some setting. -/
def denotesAny (k : Value) : Bool := all.any fun s => Denotes k.toText s

variable {environment : List (String × String)} {s : Setting} {x : String}
  {entries others : List (Value × Value)}

theorem secret?_eq_some : s.secret? environment = some x ↔ IsSecret environment s x := by
  unfold secret? Config.secretOf? IsSecret
  simp only [Option.bind_eq_some_iff, Option.filter_eq_some_iff]
  simp

theorem secret?_eq_none : s.secret? environment = none ↔ ∀ x, ¬IsSecret environment s x := by
  simp only [Option.eq_none_iff_forall_ne_some, ne_eq, secret?_eq_some]

theorem denotesAny_iff {k : Value} : denotesAny k = true ↔ ∃ s, Denotes k.toText s := by
  unfold denotesAny
  rw [List.any_eq_true]
  exact ⟨fun ⟨s, _, hs⟩ => ⟨s, of_decide_eq_true hs⟩,
    fun ⟨s, hs⟩ => ⟨s, mem_all s, decide_eq_true hs⟩⟩

theorem nodup_all : all.Nodup := by decide

/-- Only the keys that denote a setting count. -/
theorem given?_filter (entries : List (Value × Value)) (s : Setting) :
    given? (entries.filter fun e => denotesAny e.1) s = given? entries s := by
  have hkey (e : Value × Value) :
      decide (denotesAny e.1 = true ∧ (ofKey? e.1.toText == some s) = true) =
        (ofKey? e.1.toText == some s) := by
    rw [Bool.eq_iff_iff, decide_eq_true_iff]
    refine and_iff_right_of_imp fun h => ?_
    exact denotesAny_iff.mpr ⟨s, ofKey?_eq_some.mp (beq_iff_eq.mp h)⟩
  unfold given?
  rw [← List.filter_reverse, List.find?_filter]
  simp only [hkey]

/-- A setting is given as it stands under its name when all settings are given by their names. -/
theorem given?_names (f : Setting → Value) (s : Setting) :
    given? (all.map fun t => (.text t.name, f t)) s = some (f s) := by
  obtain ⟨front, back, hall⟩ := List.append_of_mem (mem_all s)
  have hnot : s ∉ back := by
    have hnodup := nodup_all
    rw [hall] at hnodup
    exact (List.nodup_cons.mp (List.nodup_append.mp hnodup).2.1).1
  rw [given?_eq_some, hall, List.map_append, List.map_cons]
  refine .last (denotes_name s) fun e he hs => ?_
  obtain ⟨t, ht, rfl⟩ := List.mem_map.mp he
  exact hnot (hs.unique (denotes_name t) ▸ ht)

end Setting

theorem nodup_of_readKeys {v : Value} {keys : List (String × String)}
    (h : readKeys v = .ok keys) : (keys.map Prod.fst).Nodup := by
  unfold readKeys at h
  split at h
  · cases h
    exact List.nodup_nil
  · split at h
    · obtain ⟨pairs, -, h⟩ := bind_eq_ok.mp h
      cases h
      exact nodup_ofEntries pairs
    · obtain ⟨read, -, h⟩ := bind_eq_ok.mp h
      cases h
      exact nodup_ofEntries _
    · cases h

namespace Config

open Setting

variable {c : Config} {v : Value} {entries others : List (Value × Value)}
  {environment : List (String × String)}

theorem nodup_of_ofEntries (h : Config.ofEntries entries = .ok c) :
    (c.apiKeys.map Prod.fst).Nodup := by
  obtain ⟨_, -, h⟩ := bind_eq_ok.mp h
  obtain ⟨_, -, h⟩ := bind_eq_ok.mp h
  obtain ⟨_, -, h⟩ := bind_eq_ok.mp h
  obtain ⟨_, htable, h⟩ := bind_eq_ok.mp h
  cases h
  exact nodup_of_readKeys htable

/-- What is stored of a setting is stored when the setting is given as that. -/
theorem stored_value (h : (c.apiKeys.map Prod.fst).Nodup) (s : Setting) :
    s.stored (c.value s) = .ok (c.value s) := by
  have htext {s : Setting} (hs : s ∈ texts) (x : Option String) :
      s.stored (.ofText? x) = .ok (.ofText? x) := by
    rw [stored_of_mem_texts hs]
    cases x <;> rfl
  cases s
  case authenticationType =>
    exact bind_eq_ok.mpr ⟨_, AuthenticationType.read_word c.authenticationType, rfl⟩
  case apiKeys => exact bind_eq_ok.mpr ⟨_, readKeys_map h, rfl⟩
  case tokenTimeout => rfl
  case renewalInterval => rfl
  all_goals exact htext (by decide) _

theorem value_withEnvironment (c : Config) (environment : List (String × String)) (s : Setting) :
    (c.withEnvironment environment).value s =
      ((s.secret? environment).map Value.text).getD (c.value s) := by
  have htext (name : String) (x : Option String) :
      Value.ofText? (secretOf? environment name <|> x) =
        ((secretOf? environment name).map Value.text).getD (.ofText? x) := by
    cases secretOf? environment name <;> rfl
  cases s
  case username => exact htext _ _
  case password => exact htext _ _
  case bearerToken => exact htext _ _
  case apiKeyValue => exact htext _ _
  case clientId => exact htext _ _
  case clientSecret => exact htext _ _
  all_goals rfl

/-- All settings of a configuration by their names, with the secrets of the environment in the
places of those that it has. -/
def overridden (c : Config) (environment : List (String × String)) : List (Value × Value) :=
  Setting.all.map fun s =>
    (.text s.name, ((s.secret? environment).map Value.text).getD (c.value s))

theorem ofEntries_overridden (h : (c.apiKeys.map Prod.fst).Nodup)
    (environment : List (String × String)) :
    Config.ofEntries (c.overridden environment) = .ok (c.withEnvironment environment) := by
  refine ofEntries_eq_ok.mpr ⟨fun e he => ?_, fun s => ?_⟩
  · obtain ⟨s, -, rfl⟩ := List.mem_map.mp he
    rfl
  · unfold settled overridden
    rw [given?_names, ← value_withEnvironment]
    exact stored_value (c := c.withEnvironment environment) h s

theorem withEnvironment_withEnvironment (c : Config) (environment : List (String × String)) :
    (c.withEnvironment environment).withEnvironment environment =
      c.withEnvironment environment := by
  refine ext_value fun s => ?_
  simp only [value_withEnvironment]
  cases s.secret? environment <;> rfl

/-- Keys that denote no setting have no influence. -/
theorem ofEntries_of_filter (h : Config.ofEntries entries = .ok c)
    (hothers : ∀ e ∈ others, e.1.isWritable = true)
    (hfilter : others.filter (fun e => denotesAny e.1) = entries.filter fun e => denotesAny e.1) :
    Config.ofEntries others = .ok c := by
  refine ofEntries_eq_ok.mpr
    ⟨fun e he => Value.checkWritable_eq_ok.mpr (hothers e he), fun s => ?_⟩
  have hgiven : given? others s = given? entries s := by
    rw [← given?_filter others, hfilter, given?_filter]
  unfold settled
  rw [hgiven]
  exact (ofEntries_eq_ok.mp h).2 s

theorem decides_of_ofEntries (h : Config.ofEntries entries = .ok c)
    (environment : List (String × String)) (s : Setting) :
    Decides environment entries s ((c.withEnvironment environment).value s) := by
  rw [value_withEnvironment]
  cases hsecret : s.secret? environment with
  | none =>
    exact .mapping (secret?_eq_none.mp hsecret) (settles_iff.mpr ((ofEntries_eq_ok.mp h).2 s))
  | some x => exact .environment (secret?_eq_some.mp hsecret)

end Config

open Setting

/-- **What decides on each setting.** With the configuration that a mapping gives, taking up the
environment leaves each setting as what decides on it: the environment, or else the last of the keys
that denote it, or else nothing. Keys that denote no setting have no influence. Settings without a
secret stay as they are, to give all settings once more gives the same configuration, and so does
taking up the environment once more. -/
theorem settings_by_precedence {v : Value} {entries : List (Value × Value)} {c : Config}
    (hentries : v.entries = .ok entries) (hc : Config.ofValue v = .ok c)
    (environment : List (String × String)) :
    (∀ s, Decides environment entries s ((c.withEnvironment environment).value s)) ∧
    (∀ others : List (Value × Value), (∀ e ∈ others, e.1.isWritable = true) →
      others.filter (fun e => denotesAny e.1) = entries.filter (fun e => denotesAny e.1) →
        Config.ofValue (.map others) = .ok c) ∧
    (∀ s, (∀ x, ¬IsSecret environment s x) →
      (c.withEnvironment environment).value s = c.value s) ∧
    Config.ofEntries (c.overridden environment) = .ok (c.withEnvironment environment) ∧
    (c.withEnvironment environment).withEnvironment environment =
      c.withEnvironment environment := by
  have h : Config.ofEntries entries = .ok c := by
    unfold Config.ofValue at hc
    rwa [hentries] at hc
  refine ⟨?decides, ?others, ?kept, ?rebuilt, ?again⟩
  case decides => exact Config.decides_of_ofEntries h environment
  case others => exact fun others => Config.ofEntries_of_filter h
  case kept =>
    intro s hs
    rw [Config.value_withEnvironment, secret?_eq_none.mpr hs]
    rfl
  case rebuilt => exact Config.ofEntries_overridden (Config.nodup_of_ofEntries h) environment
  case again => exact Config.withEnvironment_withEnvironment c environment

/-- Settings in several spellings, with further entries in the middle. -/
def spelledSettings (further : List (Value × Value)) : List (Value × Value) :=
  [(.text "authentication.type", .text "API-KEY"), (.text "api-key-name", .int 7),
    (.text "password", .text "given")] ++ further ++
  [(.text "authentication.api.key_name", .text "X-Key"), (.text "api_keys", .text "b:1,a:2")]

/-- The configuration of the settings without further entries. -/
def spelledConfig : Config :=
  { baseUri := none, authenticationType := .apiKey, authenticationScheme := some "basic",
    username := none, password := some "given", bearerToken := none,
    apiKeyName := some "X-Key", apiKeyValue := none, apiKeys := [("b", "1"), ("a", "2")],
    clientId := none, clientSecret := none, grantType := none, tokenEndpoint := none,
    tokenTimeout := .int 30, renewalInterval := .int 0 }

/-- The last of two spellings of one setting counts, a password of the environment takes precedence
over the one that is given, and a variable without characters and an unknown key count for
nothing. -/
theorem spellings_under_environment :
    Config.ofValue (.map (spelledSettings [])) = .ok spelledConfig ∧
    Config.ofValue (.map (spelledSettings [(.text "color", .text "red")])) = .ok spelledConfig ∧
    ∃ environment, environment =
        [("OPENAPI_AUTH_PASSWORD", "secret"), ("OPENAPI_AUTH_USERNAME", "")] ∧
      spelledConfig.withEnvironment environment = { spelledConfig with password := some "secret" } ∧
      ∀ s, Decides environment (spelledSettings []) s
        ((spelledConfig.withEnvironment environment).value s) := by
  have hload : Config.ofValue (.map (spelledSettings [])) = .ok spelledConfig := rfl
  obtain ⟨-, hothers, -⟩ := settings_by_precedence rfl hload []
  refine ⟨hload, hothers _ (by decide) rfl, _, rfl, rfl, ?_⟩
  exact (settings_by_precedence rfl hload _).1

end RequestAuth
