import RequestAuth.Config
import RequestAuth.Proofs.Entries
import RequestAuth.Proofs.Written

/-!
# What gives a setting

A mapping gives a setting under the last of its keys that denotes it (`Setting.IsGiven`), in any of
the spellings that a key may have (`Setting.Denotes`). What a setting is given as is stored in a
form of its own: a text as it is written, the authentication type and the key table as they are read
(`Setting.stored`). A configuration is what its settings are (`Config.ext_value`), and a mapping
gives the one whose settings are stored from it (`Config.ofEntries_eq_ok`).
-/

namespace RequestAuth

theorem Value.ofText?_injective : Function.Injective Value.ofText? := by
  intro s t h
  cases s <;> cases t <;> cases h <;> rfl

theorem AuthenticationType.word_injective : Function.Injective AuthenticationType.word := by
  intro s t
  cases s <;> cases t <;> decide

/-- The word for an authentication type names it. -/
theorem AuthenticationType.read_word (t : AuthenticationType) : read (.text t.word) = .ok t := by
  cases t <;> rfl

namespace Setting

/-! ### Keys -/

/-- What a character of a key counts as. -/
def underscored (c : Char) : Char := if c == '-' || c == '.' then '_' else c

/-- A key spells a name. -/
inductive Spells : String → String → Prop where
  /-- Hyphens and dots are underscores. -/
  | whole {key : String} : ¬keyStart.toList <+: key.toList →
    Spells key (String.ofList (key.toList.map underscored))
  /-- What keys of one spelling begin with counts for nothing, once. -/
  | behindStart (rest : String) :
    Spells (keyStart ++ rest) (String.ofList (rest.toList.map underscored))

/-- A key denotes a setting: it spells the name of the setting or, as long as no setting is named as
it spells, the name without `authentication_` in front. -/
def Denotes (key : String) (s : Setting) : Prop :=
  ∃ name, Spells key name ∧
    (name = s.name ∨ (∀ t : Setting, t.name ≠ name) ∧ "authentication_" ++ name = s.name)

variable {key name : String} {s : Setting} {v w : Value} {entries : List (Value × Value)}
  {fault : Fault}

theorem mem_all (s : Setting) : s ∈ all := by cases s <;> decide

theorem name_injective {s t : Setting} (h : s.name = t.name) : s = t := by
  revert h
  cases s <;> cases t <;> decide

theorem ofName?_eq_some : ofName? name = some s ↔ s.name = name := by
  constructor
  · intro h
    simpa using List.find?_some h
  · rintro rfl
    cases s <;> decide

theorem ofName?_eq_none : ofName? name = none ↔ ∀ t : Setting, t.name ≠ name := by
  unfold ofName?
  rw [List.find?_eq_none]
  exact ⟨fun h t => by simpa using h t (mem_all t), fun h t _ => by simpa using h t⟩

theorem spells_iff : Spells key name ↔ spelledName key = name := by
  unfold spelledName
  constructor
  · rintro (hstart | ⟨rest⟩)
    · rw [if_neg (by rwa [List.isPrefixOf_iff_prefix])]
      rfl
    · rw [String.toList_append, if_pos (by simp), ← String.length_toList, List.drop_left]
      rfl
  · rintro rfl
    split
    · rename_i hstart
      obtain ⟨rest, hrest⟩ := List.isPrefixOf_iff_prefix.mp hstart
      obtain rfl : keyStart ++ String.ofList rest = key :=
        String.toList_inj.mp (by rw [String.toList_append, String.toList_ofList, hrest])
      rw [String.toList_append, ← String.length_toList, List.drop_left]
      exact .behindStart (String.ofList rest)
    · rename_i hstart
      exact .whole (by rwa [List.isPrefixOf_iff_prefix] at hstart)

theorem ofKey?_eq_some : ofKey? key = some s ↔ Denotes key s := by
  unfold ofKey? Denotes
  simp only [spells_iff, exists_eq_left']
  cases h : ofName? (spelledName key) with
  | some t =>
    have hname := ofName?_eq_some.mp h
    constructor
    · rintro ⟨rfl⟩
      exact .inl hname.symm
    · rintro (hs | ⟨hnone, -⟩)
      · exact congrArg some (name_injective (hname.trans hs))
      · exact absurd hname (hnone t)
  | none =>
    have hnone := ofName?_eq_none.mp h
    rw [ofName?_eq_some]
    constructor
    · exact fun hs => .inr ⟨hnone, hs.symm⟩
    · rintro (hs | ⟨-, hs⟩)
      · exact absurd hs.symm (hnone s)
      · exact hs.symm

/-- A key denotes one setting at most. -/
theorem Denotes.unique {t : Setting} (hs : Denotes key s) (ht : Denotes key t) : s = t :=
  Option.some.inj ((ofKey?_eq_some.mpr hs).symm.trans (ofKey?_eq_some.mpr ht))

instance (key : String) (s : Setting) : Decidable (Denotes key s) :=
  decidable_of_iff (ofKey? key = some s) ofKey?_eq_some

theorem denotes_name (s : Setting) : Denotes s.name s := by
  cases s <;> decide

/-! ### Values -/

/-- A mapping gives a setting as a value, under the last key that denotes the setting. -/
inductive IsGiven (s : Setting) (v : Value) : List (Value × Value) → Prop where
  /-- None of the keys behind denotes it. -/
  | last {front back : List (Value × Value)} {k : Value} : Denotes k.toText s →
    (∀ e ∈ back, ¬Denotes e.1.toText s) → IsGiven s v (front ++ (k, v) :: back)

theorem given?_eq_some : given? entries s = some v ↔ IsGiven s v entries := by
  have hdenotes (e : Value × Value) :
      (ofKey? e.1.toText == some s) = true ↔ Denotes e.1.toText s := by
    rw [beq_iff_eq, ofKey?_eq_some]
  unfold given?
  rw [Option.map_eq_some_iff]
  constructor
  · rintro ⟨⟨k, v⟩, hfind, rfl⟩
    obtain ⟨hkey, back, front, hentries, hback⟩ := List.find?_eq_some_iff_append.mp hfind
    obtain rfl : entries = front.reverse ++ (k, v) :: back.reverse := by
      simpa using congrArg List.reverse hentries
    refine .last ((hdenotes _).mp hkey) fun e he hd => ?_
    have hnot := hback e (List.mem_reverse.mp he)
    rw [(hdenotes e).mpr hd] at hnot
    cases hnot
  · rintro ⟨hkey, hback⟩
    rename_i front back k
    refine ⟨(k, v), List.find?_eq_some_iff_append.mpr
      ⟨(hdenotes (k, v)).mpr hkey, back.reverse, front.reverse, by simp, fun e he => ?_⟩, rfl⟩
    rw [Bool.not_eq_true', Bool.eq_false_iff, ne_eq, hdenotes]
    exact hback e (List.mem_reverse.mp he)

theorem given?_eq_none : given? entries s = none ↔ ∀ e ∈ entries, ¬Denotes e.1.toText s := by
  unfold given?
  rw [Option.map_eq_none_iff, List.find?_eq_none]
  simp only [List.mem_reverse, beq_iff_eq, ofKey?_eq_some]

/-- What is stored of a setting that is given as a value. Null is no text. -/
def stored (s : Setting) (v : Value) : Except Fault Value :=
  match s with
  | .authenticationType => do return .text (← AuthenticationType.read v).word
  | .apiKeys => do return .map ((← readKeys v).map fun key => (.text key.1, .text key.2))
  | .tokenTimeout | .renewalInterval => .ok v
  | _ => do
    v.checkWritable
    return .ofText? (settingText v)

/-- What is stored of a setting that is not given. -/
def initial : Setting → Value
  | .authenticationType => .text "none"
  | .authenticationScheme => .text "basic"
  | .apiKeys => .map []
  | .tokenTimeout => .int 30
  | .renewalInterval => .int 0
  | _ => .null

/-- What is stored of a setting. -/
inductive Settles (entries : List (Value × Value)) (s : Setting) : Value → Prop where
  /-- It is given. -/
  | given {v w : Value} : IsGiven s v entries → s.stored v = .ok w → Settles entries s w
  /-- It is not given. -/
  | initial : (∀ e ∈ entries, ¬Denotes e.1.toText s) → Settles entries s s.initial

/-- What is stored of a setting, given what a mapping gives. -/
def settled (entries : List (Value × Value)) (s : Setting) : Except Fault Value :=
  (given? entries s).elim (.ok s.initial) s.stored

/-- A setting for which null is as good as nothing is stored like null when it is not given. -/
theorem settled_eq_stored (h : s.stored .null = .ok s.initial) :
    s.settled entries = s.stored ((given? entries s).getD .null) := by
  unfold settled
  cases given? entries s with
  | none => exact h.symm
  | some v => rfl

theorem settles_iff : Settles entries s w ↔ s.settled entries = .ok w := by
  unfold settled
  cases h : given? entries s with
  | none =>
    constructor
    · rintro (⟨hgiven, -⟩ | -)
      · cases h.symm.trans (given?_eq_some.mpr hgiven)
      · rfl
    · rintro ⟨rfl⟩
      exact .initial (given?_eq_none.mp h)
  | some v =>
    constructor
    · rintro (⟨hgiven, hstored⟩ | hnone)
      · cases h.symm.trans (given?_eq_some.mpr hgiven)
        exact hstored
      · cases h.symm.trans (given?_eq_none.mpr hnone)
    · exact fun hstored => .given (given?_eq_some.mp h) hstored

theorem isGiven_of_error {α : Type} (f : Value → Except Fault α) {a : α} (hnull : f .null = .ok a)
    (h : f ((given? entries s).getD .null) = .error fault) :
    ∃ v, IsGiven s v entries ∧ f v = .error fault := by
  cases hgiven : given? entries s with
  | none =>
    rw [hgiven] at h
    cases hnull.symm.trans h
  | some v =>
    rw [hgiven] at h
    exact ⟨v, given?_eq_some.mp hgiven, h⟩

theorem stored_of_mem_texts (hs : s ∈ texts) :
    s.stored v = do v.checkWritable; return .ofText? (settingText v) := by
  simp only [texts, List.mem_cons, List.not_mem_nil, or_false] at hs
  rcases hs with rfl | rfl | rfl | rfl | rfl | rfl | rfl | rfl | rfl | rfl | rfl <;> rfl

end Setting

namespace Config

open Setting

variable {c d : Config} {entries : List (Value × Value)} {fault : Fault}

/-- What a configuration stores of a setting. -/
def value (c : Config) : Setting → Value
  | .baseUri => .ofText? c.baseUri
  | .authenticationType => .text c.authenticationType.word
  | .authenticationScheme => .ofText? c.authenticationScheme
  | .username => .ofText? c.username
  | .password => .ofText? c.password
  | .bearerToken => .ofText? c.bearerToken
  | .apiKeyName => .ofText? c.apiKeyName
  | .apiKeyValue => .ofText? c.apiKeyValue
  | .apiKeys => .map (c.apiKeys.map fun key => (.text key.1, .text key.2))
  | .clientId => .ofText? c.clientId
  | .clientSecret => .ofText? c.clientSecret
  | .grantType => .ofText? c.grantType
  | .tokenEndpoint => .ofText? c.tokenEndpoint
  | .tokenTimeout => c.tokenTimeout
  | .renewalInterval => c.renewalInterval

/-- A configuration is what its settings are. -/
theorem ext_value (h : ∀ s, c.value s = d.value s) : c = d := by
  have hkeys : c.apiKeys = d.apiKeys :=
    List.map_injective_iff.mpr
      (fun x y hxy => by
        obtain ⟨hname, hvalue⟩ := Prod.mk.inj hxy
        exact Prod.ext (Value.text.inj hname) (Value.text.inj hvalue))
      (Value.map.inj (h .apiKeys))
  have htext {s t : Option String} : Value.ofText? s = Value.ofText? t → s = t :=
    @Value.ofText?_injective s t
  cases c
  cases d
  rw [Config.mk.injEq]
  exact ⟨htext (h .baseUri),
    AuthenticationType.word_injective (Value.text.inj (h .authenticationType)),
    htext (h .authenticationScheme), htext (h .username), htext (h .password),
    htext (h .bearerToken), htext (h .apiKeyName), htext (h .apiKeyValue), hkeys,
    htext (h .clientId), htext (h .clientSecret), htext (h .grantType), htext (h .tokenEndpoint),
    h .tokenTimeout, h .renewalInterval⟩

/-- The settings of the configuration that a mapping gives are stored from it. -/
theorem settled_of_ofEntries (h : Config.ofEntries entries = .ok c) :
    (∀ e ∈ entries, e.1.checkWritable = .ok ()) ∧
      ∀ s : Setting, s.settled entries = .ok (c.value s) := by
  obtain ⟨_, hkeys, h⟩ := bind_eq_ok.mp h
  obtain ⟨_, htexts, h⟩ := bind_eq_ok.mp h
  obtain ⟨type, htype, h⟩ := bind_eq_ok.mp h
  obtain ⟨table, htable, h⟩ := bind_eq_ok.mp h
  cases h
  refine ⟨forM_eq_ok.mp hkeys, fun s => ?_⟩
  have htext {s : Setting} (hs : s ∈ texts) (hnull : s.stored .null = .ok s.initial) :
      s.settled entries = .ok (.ofText? (givenText? entries s)) := by
    rw [settled_eq_stored hnull, stored_of_mem_texts hs]
    refine bind_eq_ok.mpr ⟨(), forM_eq_ok.mp htexts s hs, ?_⟩
    unfold givenText?
    cases given? entries s <;> rfl
  cases s
  case authenticationType =>
    rw [settled_eq_stored rfl]
    exact bind_eq_ok.mpr ⟨type, htype, rfl⟩
  case authenticationScheme =>
    have hwritable := forM_eq_ok.mp htexts .authenticationScheme (by decide)
    unfold settled value
    cases hgiven : given? entries .authenticationScheme with
    | none => rfl
    | some v =>
      rw [hgiven] at hwritable
      exact bind_eq_ok.mpr ⟨(), hwritable, rfl⟩
  case apiKeys =>
    rw [settled_eq_stored rfl]
    exact bind_eq_ok.mpr ⟨table, htable, rfl⟩
  case tokenTimeout =>
    unfold settled value
    cases given? entries .tokenTimeout <;> rfl
  case renewalInterval =>
    unfold settled value
    cases given? entries .renewalInterval <;> rfl
  all_goals exact htext (by decide) rfl

/-- A mapping is refused with a fault. The key table is read last. -/
inductive IsRefused (entries : List (Value × Value)) (fault : Fault) : Prop where
  /-- A key cannot be written. -/
  | key {e : Value × Value} : e ∈ entries → e.1.checkWritable = .error fault →
    IsRefused entries fault
  /-- What a text is given as cannot be written. -/
  | text {s : Setting} {v : Value} : s ∈ texts → IsGiven s v entries →
    v.checkWritable = .error fault → IsRefused entries fault
  /-- What the authentication type is given as names none. -/
  | type {v : Value} : IsGiven .authenticationType v entries →
    AuthenticationType.read v = .error fault → IsRefused entries fault
  /-- What the key table is given as is none. -/
  | table {v : Value} :
    (∀ w, IsGiven .authenticationType w entries → ∃ t, AuthenticationType.read w = .ok t) →
    IsGiven .apiKeys v entries → readKeys v = .error fault → IsRefused entries fault

theorem isRefused_of_ofEntries (h : Config.ofEntries entries = .error fault) :
    IsRefused entries fault := by
  rcases bind_eq_error.mp h with hkeys | ⟨_, -, h⟩
  · obtain ⟨e, he, hkey⟩ := exists_mem_of_forM hkeys
    exact .key he hkey
  rcases bind_eq_error.mp h with htexts | ⟨_, -, h⟩
  · obtain ⟨s, hs, htext⟩ := exists_mem_of_forM htexts
    obtain ⟨v, hv, htext⟩ := isGiven_of_error Value.checkWritable rfl htext
    exact .text hs hv htext
  rcases bind_eq_error.mp h with htype | ⟨type, htype, h⟩
  · obtain ⟨v, hv, htype⟩ := isGiven_of_error AuthenticationType.read rfl htype
    exact .type hv htype
  rcases bind_eq_error.mp h with htable | ⟨_, -, h⟩
  · obtain ⟨v, hv, htable⟩ := isGiven_of_error readKeys rfl htable
    refine .table (fun w hw => ⟨type, ?_⟩) hv htable
    rwa [given?_eq_some.mpr hw] at htype
  · cases h

/-- What a mapping is refused with is the fault of a key or of storing a setting. -/
theorem IsRefused.cause (h : IsRefused entries fault) :
    (∃ e ∈ entries, e.1.checkWritable = .error fault) ∨
      ∃ s v, IsGiven s v entries ∧ s.stored v = .error fault := by
  cases h with
  | key he hkey => exact .inl ⟨_, he, hkey⟩
  | text hs hv htext =>
    refine .inr ⟨_, _, hv, ?_⟩
    rw [stored_of_mem_texts hs]
    exact bind_eq_error.mpr (.inl htext)
  | type hv htype => exact .inr ⟨_, _, hv, bind_eq_error.mpr (.inl htype)⟩
  | table _ hv htable => exact .inr ⟨_, _, hv, bind_eq_error.mpr (.inl htable)⟩

/-- A mapping gives the configuration whose settings are stored from it. -/
theorem ofEntries_eq_ok : Config.ofEntries entries = .ok c ↔
    (∀ e ∈ entries, e.1.checkWritable = .ok ()) ∧
      ∀ s : Setting, s.settled entries = .ok (c.value s) := by
  refine ⟨settled_of_ofEntries, fun ⟨hkeys, hsettings⟩ => ?_⟩
  cases h : Config.ofEntries entries with
  | ok d =>
    obtain ⟨-, hsettled⟩ := settled_of_ofEntries h
    have hvalue (s : Setting) := Except.ok.inj ((hsettled s).symm.trans (hsettings s))
    exact congrArg Except.ok (ext_value hvalue)
  | error fault =>
    rcases (isRefused_of_ofEntries h).cause with ⟨e, he, hkey⟩ | ⟨s, v, hgiven, hstored⟩
    · cases hkey.symm.trans (hkeys e he)
    · have hsettled := hsettings s
      rw [settled, given?_eq_some.mpr hgiven] at hsettled
      cases hstored.symm.trans hsettled

end Config

end RequestAuth
