import RequestAuth.Scheme.Reader
import RequestAuth.Proofs.Member
import RequestAuth.Proofs.Written

/-!
# What can be read as a scheme

A definition that is no mapping, or whose type is unknown, is left out with a warning. Those of the
type `oauth2` can be unreadable further in: their flows, and the scopes of these, are looked into
without regard to their kind. `Scheme.IsReadable` says which definitions can be read, and
`Scheme.exists_read_iff` that reading ends in a fault for no others.
-/

namespace RequestAuth

variable {data type : Value} {entries : List (Value × Value)} {name : String}

/-! ### Flows -/

/-- A value describes a flow: it is a mapping whose scopes are false or stand for entries. -/
def Flow.IsReadable (data : Value) : Prop :=
  ∃ scopes, data.member "scopes" = .ok scopes ∧ (scopes.isTrue = true → scopes.StandsForEntries)

theorem Flow.read_of_entries (h : data.entries = .ok entries) (type : Value) :
    Flow.read type data = do
      let field (key : String) : Value := (Value.lookup? entries key).getD .null
      let scopes ← ((field "scopes").orElse (.map [])).toEntries
      return ⟨type, field "tokenUrl", field "authorizationUrl", field "refreshUrl", scopes⟩ := by
  unfold Flow.read
  simp only [Value.member_of_entries h]
  rfl

/-- A flow is read from the values that describe one. -/
theorem Flow.exists_read_iff (type : Value) :
    (∃ flow, Flow.read type data = .ok flow) ↔ Flow.IsReadable data := by
  constructor
  · rintro ⟨flow, h⟩
    obtain ⟨entries, he⟩ : ∃ entries, data.entries = .ok entries := by
      obtain ⟨_, h, -⟩ := bind_eq_ok.mp h
      exact Value.exists_entries_of_member h
    rw [Flow.read_of_entries he] at h
    obtain ⟨scopes, hscopes, -⟩ := bind_eq_ok.mp h
    have hstands := Value.exists_toEntries_iff.mp ⟨scopes, hscopes⟩
    exact ⟨_, Value.member_of_entries he _, (Value.orElse_empty_iff (.map rfl)).mp hstands⟩
  · rintro ⟨scopes, hscopes, hstands⟩
    obtain ⟨entries, he⟩ := Value.exists_entries_of_member hscopes
    cases (Value.member_of_entries he _).symm.trans hscopes
    obtain ⟨es, hes⟩ := Value.exists_toEntries_iff.mpr
      ((Value.orElse_empty_iff (.map rfl)).mpr hstands)
    exact ⟨_, (Flow.read_of_entries he type).trans (bind_eq_ok.mpr ⟨es, hes, rfl⟩)⟩

/-! ### Looking for a flow -/

theorem occursIn_iff {part s : List Char} : occursIn part s = true ↔ part <:+: s := by
  induction s with
  | nil => simp [occursIn]
  | cons c s ih =>
    rw [occursIn, Bool.or_eq_true, ih, List.isPrefixOf_iff_prefix, List.infix_cons_iff]

/-- A value can be asked for a name and does not have it: a mapping without the key, a list, set or
pair without the item, or a text in which the name does not occur. -/
inductive Value.Lacks (v : Value) (name : String) : Prop where
  /-- No entry has this key. -/
  | key {entries : List (Value × Value)} : v.entries = .ok entries →
    Value.lookup? entries name = none → Lacks v name
  /-- The name is not in the list or set. -/
  | item {items : List Value} : v.opened = .list items ∨ v.opened = .set items →
    .text name ∉ items → Lacks v name
  /-- The name is neither part of the pair. -/
  | pair {a b : Value} : v.opened = .pair a b → a ≠ .text name → b ≠ .text name → Lacks v name
  /-- The name does not occur. -/
  | text {s : String} : v.opened = .text s → ¬ name.toList <:+: s.toList → Lacks v name

theorem heldUnder?_of_entries (h : data.entries = .ok entries) (name : String) :
    heldUnder? data name = .ok (Value.lookup? entries name) := by
  unfold Value.entries at h
  unfold heldUnder?
  split at h
  · rename_i hopened
    cases h
    rw [hopened]
  · cases h

theorem heldUnder?_eq_none : heldUnder? data name = .ok none ↔ data.Lacks name := by
  constructor
  · intro h
    unfold heldUnder? at h
    split at h
    · rename_i entries hopened
      exact .key (Value.entries_of_opened hopened) (Except.ok.inj h)
    · rename_i items hopened
      split at h
      · cases h
      · rename_i hitems
        exact .item (.inl hopened) (mt Value.contains_text_iff.mpr hitems)
    · rename_i items hopened
      split at h
      · cases h
      · rename_i hitems
        exact .item (.inr hopened) (mt Value.contains_text_iff.mpr hitems)
    · rename_i s hopened
      split at h
      · cases h
      · rename_i hoccurs
        exact .text hopened (mt occursIn_iff.mpr hoccurs)
    · rename_i a b hopened
      split at h
      · cases h
      · rename_i hpair
        rw [Bool.or_eq_true, Value.beq_text_iff, Value.beq_text_iff, not_or] at hpair
        exact .pair hopened hpair.1 hpair.2
    · cases h
  · intro h
    cases h with
    | key he hnone => rw [heldUnder?_of_entries he, hnone]
    | item hopened hitems =>
      unfold heldUnder?
      rcases hopened with hopened | hopened
      all_goals
        rw [hopened]
        exact if_neg (mt Value.contains_text_iff.mp hitems)
    | pair hopened ha hb =>
      unfold heldUnder?
      rw [hopened]
      refine if_neg ?_
      rw [Bool.or_eq_true, Value.beq_text_iff, Value.beq_text_iff]
      exact not_or.mpr ⟨ha, hb⟩
    | text hopened hoccurs =>
      unfold heldUnder?
      rw [hopened]
      exact if_neg (mt occursIn_iff.mp hoccurs)

theorem heldUnder?_eq_some {held : Value} : heldUnder? data name = .ok (some held) ↔
    ∃ entries, data.entries = .ok entries ∧ Value.lookup? entries name = some held := by
  constructor
  · intro h
    unfold heldUnder? at h
    split at h
    · rename_i entries hopened
      exact ⟨entries, Value.entries_of_opened hopened, Except.ok.inj h⟩
    all_goals first | cases h | (split at h <;> cases h)
  · rintro ⟨entries, he, hsome⟩
    rw [heldUnder?_of_entries he, hsome]

/-- A value gives a flow of a name, or none: it lacks the name, or holds something under it that is
false or describes a flow. -/
inductive Flow.IsReadableIn (flows : Value) (name : String) : Prop where
  /-- There is no such flow. -/
  | absent : flows.Lacks name → IsReadableIn flows name
  /-- There is one. -/
  | held {entries : List (Value × Value)} {held : Value} : flows.entries = .ok entries →
    Value.lookup? entries name = some held →
    (held.isTrue = true → Flow.IsReadable held) → IsReadableIn flows name

theorem Flow.isReadable_orElse {held : Value} :
    Flow.IsReadable (held.orElse (.map [])) ↔ (held.isTrue = true → Flow.IsReadable held) :=
  Value.orElse_empty_iff ⟨.null, rfl, nofun⟩

/-- Flows are read when each of them is absent or described. -/
theorem exists_readFlows_iff {names : List String} :
    (∃ flows, readFlows data names = .ok flows) ↔ ∀ name ∈ names, Flow.IsReadableIn data name := by
  induction names with
  | nil => exact ⟨fun _ => nofun, fun _ => ⟨[], rfl⟩⟩
  | cons name names ih =>
    rw [List.forall_mem_cons, ← ih, readFlows]
    constructor
    · rintro ⟨flows, h⟩
      obtain ⟨held?, hheld, h⟩ := bind_eq_ok.mp h
      cases held? with
      | none => exact ⟨.absent (heldUnder?_eq_none.mp hheld), flows, h⟩
      | some held =>
        obtain ⟨flow, hflow, h⟩ := bind_eq_ok.mp h
        obtain ⟨rest, hrest, -⟩ := bind_eq_ok.mp h
        obtain ⟨entries, he, hsome⟩ := heldUnder?_eq_some.mp hheld
        have hreadable := (Flow.exists_read_iff _).mp ⟨flow, hflow⟩
        exact ⟨.held he hsome (Flow.isReadable_orElse.mp hreadable), rest, hrest⟩
    · rintro ⟨hname, rest, hrest⟩
      cases hname with
      | absent hlacks => exact ⟨rest, bind_eq_ok.mpr ⟨none, heldUnder?_eq_none.mpr hlacks, hrest⟩⟩
      | held he hsome hreadable =>
        obtain ⟨flow, hflow⟩ :=
          (Flow.exists_read_iff (.text name)).mpr (Flow.isReadable_orElse.mpr hreadable)
        have hheld := heldUnder?_eq_some.mpr ⟨_, he, hsome⟩
        exact ⟨_, bind_eq_ok.mpr ⟨_, hheld, bind_eq_ok.mpr ⟨flow, hflow,
          bind_eq_ok.mpr ⟨rest, hrest, rfl⟩⟩⟩⟩

/-- The one flow of version 2 is read when its name may be a key and it is described. -/
theorem exists_readFlow_iff : (∃ flows, readFlow data = .ok flows) ↔
    ∃ flow, data.memberOr "flow" (.text "") = .ok flow ∧ flow.isKey = true ∧
      Flow.IsReadable data := by
  unfold readFlow
  constructor
  · rintro ⟨flows, h⟩
    obtain ⟨flow, hflow, h⟩ := bind_eq_ok.mp h
    cases hkey : flow.isKey with
    | false =>
      rw [hkey] at h
      cases h
    | true =>
      rw [hkey] at h
      obtain ⟨held, hheld, -⟩ := bind_eq_ok.mp h
      exact ⟨flow, hflow, hkey, (Flow.exists_read_iff _).mp ⟨held, hheld⟩⟩
  · rintro ⟨flow, hflow, hkey, hreadable⟩
    obtain ⟨held, hheld⟩ := (Flow.exists_read_iff (flowName flow)).mpr hreadable
    refine ⟨[(flowName flow, held)], bind_eq_ok.mpr ⟨flow, hflow, ?_⟩⟩
    rw [hkey]
    exact bind_eq_ok.mpr ⟨held, hheld, rfl⟩

/-! ### Types -/

namespace Scheme

/-- The types that a definition may have. -/
def types : List String := ["apiKey", "http", "basic", "oauth2", "openIdConnect"]

/-- What a definition holds for its type can be read. -/
inductive Kind.IsReadable (version2 : Bool) (data : Value) : String → Prop where
  /-- The place of a key is written, so nothing may be in the way of writing it. -/
  | apiKey {place : Value} : data.memberOr "in" (.text "header") = .ok place →
    place.isWritable = true → IsReadable version2 data "apiKey"
  /-- The fields of an HTTP scheme are kept as they are. -/
  | http : IsReadable version2 data "http"
  /-- Nothing is read. -/
  | basic : IsReadable version2 data "basic"
  /-- In version 2 the definition is itself the only flow, whose name has to be a key. -/
  | flow {flow : Value} : version2 = true → data.memberOr "flow" (.text "") = .ok flow →
    flow.isKey = true → Flow.IsReadable data → IsReadable version2 data "oauth2"
  /-- Later the flows are held under their names, unless what should hold them is false. -/
  | flows {flows : Value} : version2 = false → data.member "flows" = .ok flows →
    (flows.isTrue = true → ∀ name ∈ flowNames, Flow.IsReadableIn flows name) →
    IsReadable version2 data "oauth2"
  /-- The address is kept as it is. -/
  | openIdConnect : IsReadable version2 data "openIdConnect"

variable {version2 : Bool} {word : String}

theorem Kind.read_apiKey : Kind.read version2 (.text "apiKey") data = do
    let place ← (← data.memberOr "in" (.text "header")).written
    return some (.apiKey (.text (lowerText place)) (← data.member "name")) := rfl

theorem Kind.read_http : Kind.read version2 (.text "http") data = do
    return some (.http (← data.member "scheme") (← data.member "bearerFormat")) := rfl

theorem Kind.read_basic : Kind.read version2 (.text "basic") data =
    .ok (some (.http (.text "basic") .null)) := rfl

theorem Kind.read_oauth2 : Kind.read version2 (.text "oauth2") data = do
    return some (.oauth2 (← if version2 then readFlow data
      else readFlows ((← data.member "flows").orElse (.map [])) flowNames)) := by
  cases version2 <;> rfl

theorem Kind.read_openIdConnect : Kind.read version2 (.text "openIdConnect") data = do
    return some (.openIdConnect (← data.memberOr "openIdConnectUrl" (.text ""))) := rfl

theorem Kind.read_unknown (h : ∀ word ∈ types, type ≠ .text word) :
    Kind.read version2 type data = .ok none := by
  have hne : ∀ word ∈ types, ¬ (type == .text word) = true :=
    fun word hword => mt Value.beq_text_iff.mp (h word hword)
  simp only [types, List.forall_mem_cons] at hne
  obtain ⟨h₁, h₂, h₃, h₄, h₅, -⟩ := hne
  unfold Kind.read
  rw [if_neg h₁, if_neg h₂, if_neg h₃, if_neg h₄, if_neg h₅]
  rfl

/-- Flows that are false are none. -/
theorem isReadableIn_orElse {flows : Value} :
    (∀ name ∈ flowNames, Flow.IsReadableIn (flows.orElse (.map [])) name) ↔
      (flows.isTrue = true → ∀ name ∈ flowNames, Flow.IsReadableIn flows name) :=
  Value.orElse_empty_iff (P := fun flows => ∀ name ∈ flowNames, Flow.IsReadableIn flows name)
    fun _ _ => .absent (.key rfl rfl)

/-- What is read of a known type is of some kind, and it could be read. -/
theorem Kind.isReadable_of_read (hword : word ∈ types) {kind? : Option Kind}
    (h : Kind.read version2 (.text word) data = .ok kind?) :
    kind?.isSome = true ∧ IsReadable version2 data word := by
  simp only [types, List.mem_cons, List.not_mem_nil, or_false] at hword
  rcases hword with rfl | rfl | rfl | rfl | rfl
  · rw [Kind.read_apiKey] at h
    obtain ⟨place, hplace, h⟩ := bind_eq_ok.mp h
    obtain ⟨w, hwritten, h⟩ := bind_eq_ok.mp h
    obtain ⟨parameter, -, h⟩ := bind_eq_ok.mp h
    cases h
    exact ⟨rfl, .apiKey hplace (Value.written_eq_ok.mp hwritten).1⟩
  · rw [Kind.read_http] at h
    obtain ⟨subscheme, -, h⟩ := bind_eq_ok.mp h
    obtain ⟨bearerFormat, -, h⟩ := bind_eq_ok.mp h
    cases h
    exact ⟨rfl, .http⟩
  · cases h
    exact ⟨rfl, .basic⟩
  · rw [Kind.read_oauth2] at h
    cases version2 with
    | true =>
      obtain ⟨flows, hflows, h⟩ := bind_eq_ok.mp h
      cases h
      obtain ⟨flow, hflow, hkey, hreadable⟩ := exists_readFlow_iff.mp ⟨flows, hflows⟩
      exact ⟨rfl, .flow rfl hflow hkey hreadable⟩
    | false =>
      obtain ⟨held, hheld, h⟩ := bind_eq_ok.mp h
      obtain ⟨flows, hflows, h⟩ := bind_eq_ok.mp h
      cases h
      have hreadable := exists_readFlows_iff.mp ⟨flows, hflows⟩
      exact ⟨rfl, .flows rfl hheld (isReadableIn_orElse.mp hreadable)⟩
  · rw [Kind.read_openIdConnect] at h
    obtain ⟨url, -, h⟩ := bind_eq_ok.mp h
    cases h
    exact ⟨rfl, .openIdConnect⟩

theorem Kind.exists_read (hmap : data.isMap = true) (h : IsReadable version2 data word) :
    ∃ kind, Kind.read version2 (.text word) data = .ok (some kind) := by
  have hmember := Value.exists_member_of_isMap hmap
  cases h with
  | apiKey hplace hwritable =>
    obtain ⟨parameter, hparameter⟩ := hmember "name"
    have hwritten := Value.written_eq_ok.mpr ⟨hwritable, rfl⟩
    exact ⟨_, bind_eq_ok.mpr ⟨_, hplace, bind_eq_ok.mpr ⟨_, hwritten,
      bind_eq_ok.mpr ⟨parameter, hparameter, rfl⟩⟩⟩⟩
  | http =>
    obtain ⟨subscheme, hsubscheme⟩ := hmember "scheme"
    obtain ⟨bearerFormat, hformat⟩ := hmember "bearerFormat"
    exact ⟨_, bind_eq_ok.mpr ⟨subscheme, hsubscheme, bind_eq_ok.mpr ⟨bearerFormat, hformat, rfl⟩⟩⟩
  | basic => exact ⟨_, rfl⟩
  | flow hversion hflow hkey hreadable =>
    subst hversion
    obtain ⟨flows, hflows⟩ := exists_readFlow_iff.mpr ⟨_, hflow, hkey, hreadable⟩
    exact ⟨_, bind_eq_ok.mpr ⟨flows, hflows, rfl⟩⟩
  | flows hversion hheld hreadable =>
    subst hversion
    obtain ⟨flows, hflows⟩ := exists_readFlows_iff.mpr (isReadableIn_orElse.mpr hreadable)
    exact ⟨_, bind_eq_ok.mpr ⟨_, hheld, bind_eq_ok.mpr ⟨flows, hflows, rfl⟩⟩⟩
  | openIdConnect =>
    obtain ⟨url, hurl⟩ := Value.exists_memberOr_of_isMap hmap "openIdConnectUrl" (.text "")
    exact ⟨_, bind_eq_ok.mpr ⟨url, hurl, rfl⟩⟩

/-! ### Definitions -/

/-- A definition is of a known type. -/
def IsKnown (data : Value) : Prop :=
  ∃ word ∈ types, data.memberOr "type" (.text "") = .ok (.text word)

/-- A definition can be read, be it as a scheme or as one to leave out. -/
inductive IsReadable (version2 : Bool) (data : Value) : Prop where
  /-- It is no mapping. -/
  | stray : data.isMap = false → IsReadable version2 data
  /-- It is of an unknown type, which may be any value. -/
  | unknown {type : Value} : data.memberOr "type" (.text "") = .ok type →
    (∀ word ∈ types, type ≠ .text word) → IsReadable version2 data
  /-- It is of a known type and holds what can be read as such. -/
  | known {word : String} : word ∈ types →
    data.memberOr "type" (.text "") = .ok (.text word) →
    Kind.IsReadable version2 data word → IsReadable version2 data

/-- What the warning says about a definition that is left out. -/
def complaint (name : String) (data : Value) : List Value :=
  match data.memberOr "type" (.text "") with
  | .ok type => [.text "Unknown security scheme type: ", type, .text " for scheme ", .text name]
  | .error _ => [.text "Ignoring malformed security scheme ", .text name]

theorem complaint_of_type (h : data.memberOr "type" (.text "") = .ok type) (name : String) :
    complaint name data =
      [.text "Unknown security scheme type: ", type, .text " for scheme ", .text name] := by
  unfold complaint
  rw [h]

/-- What is no mapping is left out. -/
theorem read_of_not_isMap (h : data.isMap = false) (name : String) :
    Scheme.read version2 (.text name) data = .ok (.inr (.warn (complaint name data))) := by
  have hcomplaint :
      complaint name data = [.text "Ignoring malformed security scheme ", .text name] := by
    unfold complaint
    split
    · rename_i type htype
      cases h.symm.trans (Value.isMap_of_memberOr htype)
    · rfl
  unfold Scheme.read
  rw [h, hcomplaint]
  rfl

/-- What becomes of a definition when it is known of which kind it is, if of any. -/
def concluded (name type description : Value) : Option Kind → Scheme ⊕ Notice
  | some kind => .inl ⟨name, description, kind⟩
  | none => .inr (.warn [.text "Unknown security scheme type: ", type, .text " for scheme ", name])

/-- What a mapping describes depends on its type, and its description is kept. -/
theorem read_of_isMap (h : data.isMap = true) (name : Value) :
    Scheme.read version2 name data = (do
      let type ← data.memberOr "type" (.text "")
      let description ← data.member "description"
      return concluded name type description (← Kind.read version2 type data)) := by
  unfold Scheme.read
  rw [h]
  cases data.memberOr "type" (.text "") with
  | error fault => rfl
  | ok type =>
    cases data.member "description" with
    | error fault => rfl
    | ok description =>
      change Kind.read version2 type data >>= _ = Kind.read version2 type data >>= _
      refine congrArg _ (funext fun kind? => ?_)
      cases kind? <;> rfl

/-- What is read from a definition was readable: a scheme of the name when its type is known, and
otherwise a warning. -/
theorem outcome_of_read {outcome : Scheme ⊕ Notice}
    (h : Scheme.read version2 (.text name) data = .ok outcome) :
    IsReadable version2 data ∧
      ((IsKnown data ∧ ∃ scheme, outcome = .inl scheme ∧ scheme.name = .text name) ∨
        (¬ IsKnown data ∧ outcome = .inr (.warn (complaint name data)))) := by
  cases hmap : data.isMap with
  | false =>
    rw [read_of_not_isMap hmap] at h
    cases h
    refine ⟨.stray hmap, .inr ⟨?_, rfl⟩⟩
    rintro ⟨word, -, htype⟩
    cases hmap.symm.trans (Value.isMap_of_memberOr htype)
  | true =>
    rw [read_of_isMap hmap] at h
    obtain ⟨type, htype, h⟩ := bind_eq_ok.mp h
    obtain ⟨description, -, h⟩ := bind_eq_ok.mp h
    obtain ⟨kind?, hkind, h⟩ := bind_eq_ok.mp h
    by_cases hknown : ∃ word ∈ types, type = .text word
    · obtain ⟨word, hword, rfl⟩ := hknown
      obtain ⟨hsome, hreadable⟩ := Kind.isReadable_of_read hword hkind
      obtain ⟨kind, rfl⟩ := Option.isSome_iff_exists.mp hsome
      cases h
      exact ⟨.known hword htype hreadable, .inl ⟨⟨word, hword, htype⟩, _, rfl, rfl⟩⟩
    · have hunknown : ∀ word ∈ types, type ≠ .text word :=
        fun word hword he => hknown ⟨word, hword, he⟩
      rw [Kind.read_unknown hunknown] at hkind
      cases hkind
      cases h
      refine ⟨.unknown htype hunknown, .inr ⟨?_, ?_⟩⟩
      · rintro ⟨word, hword, hother⟩
        cases htype.symm.trans hother
        exact hunknown word hword rfl
      · rw [complaint_of_type htype]
        rfl

theorem exists_read (h : IsReadable version2 data) (name : String) :
    ∃ outcome, Scheme.read version2 (.text name) data = .ok outcome := by
  cases h with
  | stray hmap => exact ⟨_, read_of_not_isMap hmap name⟩
  | unknown htype hunknown =>
    have hmap := Value.isMap_of_memberOr htype
    obtain ⟨description, hdescription⟩ := Value.exists_member_of_isMap hmap "description"
    rw [read_of_isMap hmap]
    exact ⟨_, bind_eq_ok.mpr ⟨_, htype, bind_eq_ok.mpr ⟨description, hdescription,
      bind_eq_ok.mpr ⟨none, Kind.read_unknown hunknown, rfl⟩⟩⟩⟩
  | known _ htype hreadable =>
    have hmap := Value.isMap_of_memberOr htype
    obtain ⟨description, hdescription⟩ := Value.exists_member_of_isMap hmap "description"
    obtain ⟨kind, hkind⟩ := Kind.exists_read hmap hreadable
    rw [read_of_isMap hmap]
    exact ⟨_, bind_eq_ok.mpr ⟨_, htype, bind_eq_ok.mpr ⟨description, hdescription,
      bind_eq_ok.mpr ⟨some kind, hkind, rfl⟩⟩⟩⟩

/-- Reading a definition ends in a fault exactly when it cannot be read. -/
theorem exists_read_iff (name : String) :
    (∃ outcome, Scheme.read version2 (.text name) data = .ok outcome) ↔
      IsReadable version2 data :=
  ⟨fun ⟨_, h⟩ => (outcome_of_read h).1, fun h => exists_read h name⟩

end Scheme

end RequestAuth
