import RequestAuth.Proofs.Scheme.Definition
import RequestAuth.Proofs.Scheme.Document

/-!
# Two spellings of the same schemes

A definition of version 2 has a later spelling (`Scheme.restated`): what was of the type `basic` is
of the type `http`, and the fields of a flow move into a mapping of flows. A definition means as one
of version 2 what its later spelling means (`Scheme.read_restated`), and so do whole documents. The
types that both versions share are read alike (`Scheme.Kind.read_of_ne`); the other two lose all
fields but those that version 2 looks at.
-/

namespace RequestAuth

/-! ### Entries under some keys -/

namespace Value

variable {entries : List (Value × Value)} {keys : List String} {key : String}

/-- The entries under some keys, in their order. -/
def picked (keys : List String) (entries : List (Value × Value)) : List (Value × Value) :=
  entries.filter fun e => keys.any fun key => e.1 == .text key

theorem lookup?_cons_of_ne {k : Value} (h : k ≠ .text key) (v : Value) :
    lookup? ((k, v) :: entries) key = lookup? entries key := by
  rw [lookup?, List.lookup_cons, (isExact_text key).beq_eq_false h.symm]
  rfl

@[simp] theorem lookup?_cons_text (k : String) (v : Value) :
    lookup? ((.text k, v) :: entries) key = if k = key then some v else lookup? entries key := by
  by_cases h : k = key
  · subst h
    rw [if_pos rfl, lookup?, List.lookup_cons, (isExact_text k).refl]
  · rw [if_neg h]
    exact lookup?_cons_of_ne (by rintro ⟨⟩; exact h rfl) v

theorem picked_cons (e : Value × Value) : picked keys (e :: entries) =
    if keys.any fun key => e.1 == .text key then e :: picked keys entries
    else picked keys entries := List.filter_cons

theorem lookup?_picked (h : key ∈ keys) :
    lookup? (picked keys entries) key = lookup? entries key := by
  induction entries with
  | nil => rfl
  | cons e entries ih =>
    obtain ⟨k, v⟩ := e
    rw [picked_cons]
    by_cases hk : k = .text key
    · subst hk
      rw [if_pos (List.any_eq_true.mpr ⟨key, h, (isExact_text key).refl⟩)]
      simp
    · rw [lookup?_cons_of_ne hk, ← ih]
      split
      · exact lookup?_cons_of_ne hk v
      · rfl

theorem lookup?_picked_of_not_mem (h : key ∉ keys) : lookup? (picked keys entries) key = none := by
  refine List.lookup_eq_none_iff.mpr fun e he => ?_
  obtain ⟨k, hk, hkey⟩ := List.any_eq_true.mp (List.mem_filter.mp he).2
  rw [beq_text_iff.mp hkey]
  have hne : Value.text key ≠ .text k := by
    rintro ⟨⟩
    exact h hk
  rw [bne, (isExact_text key).beq_eq_false hne]
  rfl

end Value

/-! ### Flows -/

/-- The names of the flows in version 2, each with its later one. -/
def flowSpellings : List (String × String) :=
  [("application", "clientCredentials"), ("accessCode", "authorizationCode"),
    ("implicit", "implicit"), ("password", "password")]

/-- The fields of a flow. -/
def flowFields : List String := ["tokenUrl", "authorizationUrl", "refreshUrl", "scopes"]

/-- The later name of a flow. -/
def laterFlow : Value → Value
  | .text flow => .text ((flowSpellings.lookup flow).getD flow)
  | v => v

variable {data type name : Value} {entries : List (Value × Value)} {flow : String}

theorem flowName_of_mem (h : flow ∈ flowSpellings.map Prod.fst) :
    ∃ later ∈ flowNames,
      laterFlow (.text flow) = .text later ∧ flowName (.text flow) = .text later := by
  simp only [flowSpellings, List.map_cons, List.map_nil, List.mem_cons, List.not_mem_nil,
    or_false] at h
  rcases h with rfl | rfl | rfl | rfl
  · exact ⟨"clientCredentials", by decide, rfl, rfl⟩
  · exact ⟨"authorizationCode", by decide, rfl, rfl⟩
  · exact ⟨"implicit", by decide, rfl, rfl⟩
  · exact ⟨"password", by decide, rfl, rfl⟩

/-- A flow is read from its fields alone. -/
theorem Flow.read_picked (h : data.entries = .ok entries) (type : Value) :
    Flow.read type (.map (Value.picked flowFields entries)) = Flow.read type data := by
  have hfield : ∀ field ∈ flowFields,
      Value.lookup? (Value.picked flowFields entries) field = Value.lookup? entries field :=
    fun field => Value.lookup?_picked
  simp only [flowFields, List.forall_mem_cons] at hfield
  obtain ⟨htoken, hauthorization, hrefresh, hscopes, -⟩ := hfield
  rw [Flow.read_of_entries h, Flow.read_of_entries rfl]
  simp only [flowFields, htoken, hauthorization, hrefresh, hscopes]

/-- A mapping without flows has none. -/
theorem readFlows_of_lookup?_none {names : List String}
    (h : ∀ name ∈ names, Value.lookup? entries name = none) :
    readFlows (.map entries) names = .ok [] := by
  induction names with
  | nil => rfl
  | cons name names ih =>
    obtain ⟨hname, hnames⟩ := List.forall_mem_cons.mp h
    rw [readFlows, heldUnder?_of_entries rfl, hname]
    exact ih hnames

/-- A mapping with one flow has this one. -/
theorem readFlows_singleton {names : List String} {later : String} (hmem : later ∈ names)
    (hnodup : names.Nodup) (held : Value) :
    readFlows (.map [(.text later, held)]) names = do
      return [(.text later, ← Flow.read (.text later) (held.orElse (.map [])))] := by
  induction names with
  | nil => cases hmem
  | cons name names ih =>
    obtain ⟨hnot, hnames⟩ := List.nodup_cons.mp hnodup
    rw [readFlows, heldUnder?_of_entries rfl, Value.lookup?_cons_text]
    by_cases hname : later = name
    · subst hname
      -- no name comes twice, so none of those behind it is found
      have hrest : readFlows (.map [(.text later, held)]) names = .ok [] := by
        refine readFlows_of_lookup?_none fun n hn => ?_
        have hne : later ≠ n := fun he => hnot (he ▸ hn)
        rw [Value.lookup?_cons_text, if_neg hne]
        rfl
      rw [if_pos rfl]
      dsimp only [bind, Except.bind]
      rw [hrest]
    · rw [if_neg hname]
      exact ih ((List.mem_cons.mp hmem).resolve_left hname) hnames

/-! ### Definitions -/

namespace Scheme

/-- A definition of some type with one field and the description that stands in some entries. -/
def described (type key : String) (v : Value) (entries : List (Value × Value)) : Value :=
  .map ((.text "type", .text type) :: (.text key, v) :: Value.picked ["description"] entries)

/-- A definition of version 2 in its later spelling. One of HTTP Basic has the sub-scheme as a
field, and one of OAuth 2.0 its flow in a mapping, under the later name. Others stay as they are. -/
def restated (data : Value) : Value :=
  match data.entries with
  | .error _ => data
  | .ok entries =>
    let type := (Value.lookup? entries "type").getD (.text "")
    if type == .text "basic" then described "http" "scheme" (.text "basic") entries
    else if type == .text "oauth2" then
      let flow := laterFlow ((Value.lookup? entries "flow").getD .null)
      described "oauth2" "flows" (.map [(flow, .map (Value.picked flowFields entries))]) entries
    else data

/-- A definition of OAuth 2.0 has one of the flows of version 2. -/
def HasSpelledFlow (data : Value) : Prop :=
  data.member "type" = .ok (.text "oauth2") →
    ∃ flow ∈ flowSpellings.map Prod.fst, data.member "flow" = .ok (.text flow)

variable {version2 : Bool}

theorem lookup?_of_member {key s : String} (he : data.entries = .ok entries)
    (h : data.member key = .ok (.text s)) : Value.lookup? entries key = some (.text s) := by
  rw [Value.member_of_entries he] at h
  cases hheld : Value.lookup? entries key with
  | none => simp [hheld] at h
  | some v => simpa [hheld] using h

/-- A type that is not the text for none is written in the definition. -/
theorem member_type_of_entries {word : String} (he : data.entries = .ok entries)
    (h : (Value.lookup? entries "type").getD (.text "") = .text word) (hword : "" ≠ word) :
    data.member "type" = .ok (.text word) := by
  rw [Value.member_of_entries he]
  cases hheld : Value.lookup? entries "type" with
  | none => simp [hheld, hword] at h
  | some v => simpa [hheld] using h

theorem read_of_entries (h : data.entries = .ok entries)
    (htype : (Value.lookup? entries "type").getD (.text "") = type) (name : Value) :
    Scheme.read version2 name data = do
      return concluded name type ((Value.lookup? entries "description").getD .null)
        (← Kind.read version2 type data) := by
  rw [read_of_isMap (Value.isMap_of_entries h), Value.memberOr_of_entries h, htype,
    Value.member_of_entries h]
  rfl

/-- The description of the entries is kept. -/
theorem read_described {key : String} (hkey : key ≠ "description") (word : String) (v : Value)
    (entries : List (Value × Value)) (name : Value) :
    Scheme.read version2 name (described word key v entries) = do
      return concluded name (.text word) ((Value.lookup? entries "description").getD .null)
        (← Kind.read version2 (.text word) (described word key v entries)) := by
  have hdescription : Value.lookup? (Value.picked ["description"] entries) "description" =
      Value.lookup? entries "description" := Value.lookup?_picked (.head _)
  have htype {rest : List (Value × Value)} :
      (Value.lookup? ((.text "type", .text word) :: rest) "type").getD (.text "") = .text word := by
    simp
  rw [← hdescription, described, read_of_entries rfl htype]
  simp [hkey]

theorem member_described {key : String} (hkey : key ≠ "type") (word : String) (v : Value)
    (entries : List (Value × Value)) : (described word key v entries).member key = .ok v := by
  rw [described, Value.member_of_entries rfl]
  simp [hkey.symm]

/-- The version only matters to definitions of OAuth 2.0. -/
theorem Kind.read_of_ne (h : type ≠ .text "oauth2") :
    Kind.read false type data = Kind.read true type data := by
  have hne : (type == .text "oauth2") = false :=
    Bool.eq_false_iff.mpr (mt Value.beq_text_iff.mp h)
  unfold Kind.read
  simp only [hne, Bool.false_eq_true, if_false]

/-- What is no mapping is left out in every version. -/
theorem read_of_entries_error {fault : Fault} (h : data.entries = .error fault) (name : Value) :
    Scheme.read false name data = Scheme.read true name data := by
  have hmap : data.isMap = false := by
    refine Bool.eq_false_iff.mpr fun hmap => ?_
    obtain ⟨entries, he⟩ := Value.exists_entries_of_isMap hmap
    cases h.symm.trans he
  unfold Scheme.read
  rw [hmap]
  rfl

/-- The field of a scheme is all that a definition of HTTP has. -/
theorem read_http_described (entries : List (Value × Value)) :
    Kind.read version2 (.text "http") (described "http" "scheme" (.text "basic") entries) =
      .ok (some (.http (.text "basic") .null)) := by
  have hformat : Value.lookup? (Value.picked ["description"] entries) "bearerFormat" = none :=
    Value.lookup?_picked_of_not_mem (by decide)
  have hmember : (described "http" "scheme" (.text "basic") entries).member "bearerFormat" =
      .ok .null := by
    rw [described, Value.member_of_entries rfl]
    simp [hformat]
  rw [Kind.read_http, member_described (by decide), hmember]
  rfl

/-- The one flow of version 2 is the one that is held under its later name. -/
theorem read_oauth2_described {flow later : String} (he : data.entries = .ok entries)
    (hflow : Value.lookup? entries "flow" = some (.text flow))
    (hname : flowName (.text flow) = .text later) (hmem : later ∈ flowNames) :
    Kind.read false (.text "oauth2") (described "oauth2" "flows"
      (.map [(.text later, .map (Value.picked flowFields entries))]) entries) =
      Kind.read true (.text "oauth2") data := by
  have hold : readFlow data = do return [(.text later, ← Flow.read (.text later) data)] := by
    unfold readFlow
    rw [Value.memberOr_of_entries he, hflow, Option.getD_some]
    dsimp only [bind, Except.bind]
    rw [hname]
    rfl
  -- a flow without fields is an empty mapping, which counts as false but gives way to its equal
  have hlater : readFlows (.map [(.text later, .map (Value.picked flowFields entries))]) flowNames =
      readFlow data := by
    rw [readFlows_singleton hmem (by decide), Value.map_orElse_empty, Flow.read_picked he, hold]
  rw [Kind.read_oauth2, Kind.read_oauth2, member_described (by decide)]
  dsimp only [bind, Except.bind]
  rw [Value.orElse_of_isTrue rfl, hlater]
  rfl

/-- A definition means as one of version 2 what its later spelling means. -/
theorem read_restated (h : HasSpelledFlow data) (name : Value) :
    Scheme.read false name (restated data) = Scheme.read true name data := by
  unfold restated
  cases he : data.entries with
  | error _ => exact read_of_entries_error he name
  | ok entries =>
    dsimp only
    by_cases hbasic : (Value.lookup? entries "type").getD (.text "") = .text "basic"
    · rw [if_pos (Value.beq_text_iff.mpr hbasic), read_described (by decide), read_http_described,
        read_of_entries he hbasic, Kind.read_basic]
      rfl
    rw [if_neg (mt Value.beq_text_iff.mp hbasic)]
    by_cases hoauth2 : (Value.lookup? entries "type").getD (.text "") = .text "oauth2"
    · obtain ⟨flow, hmem, hflow⟩ := h (member_type_of_entries he hoauth2 (by decide))
      have hheld := lookup?_of_member he hflow
      obtain ⟨later, hlater, hspelled, hname⟩ := flowName_of_mem hmem
      rw [if_pos (Value.beq_text_iff.mpr hoauth2), hheld, Option.getD_some, hspelled,
        read_described (by decide), read_oauth2_described he hheld hname hlater,
        read_of_entries he hoauth2]
    · rw [if_neg (mt Value.beq_text_iff.mp hoauth2), read_of_entries he rfl,
        read_of_entries he rfl, Kind.read_of_ne hoauth2]

end Scheme

/-! ### Documents -/

variable {definitions : List (Value × Value)}

/-- A list of definitions of version 2 gives what its later spelling gives. -/
theorem readSchemes_restated (h : ∀ e ∈ definitions, Scheme.HasSpelledFlow e.2) :
    readSchemes false (definitions.map fun e => (e.1, Scheme.restated e.2)) =
      readSchemes true definitions := by
  induction definitions with
  | nil => rfl
  | cons e rest ih =>
    obtain ⟨he, hrest⟩ := List.forall_mem_cons.mp h
    rw [List.map_cons, readSchemes_cons, readSchemes_cons, Scheme.read_restated he, ih hrest]

/-- **Both spellings mean the same.** A document of version 2 whose definitions of OAuth 2.0 each
have one of the four flows, and a later one with the same definitions in their later spelling, have
the same schemes under the same names in the same order, with the same warnings, or end in the same
fault. -/
theorem Registry.spellings_agree {old later : Value}
    (hold : DeclaresSchemes old true definitions)
    (hlater : DeclaresSchemes later false
      (definitions.map fun e => (e.1, Scheme.restated e.2)))
    (hflows : ∀ e ∈ definitions, Scheme.HasSpelledFlow e.2) :
    ofDocument later = ofDocument old := by
  rw [hold.ofDocument, hlater.ofDocument, readSchemes_restated hflows]

/-- Definitions of version 2, among them one that is no mapping. -/
def oldDefinitions : List (Value × Value) :=
  [(.text "user", .map [(.text "type", .text "basic"), (.text "description", .text "d")]),
    (.text "oauth", .map [(.text "flow", .text "accessCode"), (.text "refreshUrl", .null),
      (.text "type", .text "oauth2"), (.text "tokenUrl", .text "/token")]),
    (.text "stray", .bool true),
    (.text "key", .map [(.text "type", .text "apiKey"), (.text "in", .text "Query")])]

/-- The same in the later spelling. -/
def laterDefinitions : List (Value × Value) :=
  [(.text "user", .map [(.text "type", .text "http"), (.text "scheme", .text "basic"),
      (.text "description", .text "d")]),
    (.text "oauth", .map [(.text "type", .text "oauth2"), (.text "flows", .map
      [(.text "authorizationCode", .map [(.text "refreshUrl", .null),
        (.text "tokenUrl", .text "/token")])])]),
    (.text "stray", .bool true),
    (.text "key", .map [(.text "type", .text "apiKey"), (.text "in", .text "Query")])]

/-- Old definitions and the same ones in the later spelling agree. -/
theorem old_definitions_agree :
    (∀ e ∈ oldDefinitions, Scheme.HasSpelledFlow e.2) ∧
      (oldDefinitions.map fun e => (e.1, Scheme.restated e.2)) = laterDefinitions ∧
      Registry.ofDocument (Registry.declaring false laterDefinitions) =
        Registry.ofDocument (Registry.declaring true oldDefinitions) := by
  have hflows : ∀ e ∈ oldDefinitions, Scheme.HasSpelledFlow e.2 := by
    simp only [oldDefinitions, List.forall_mem_cons]
    refine ⟨fun h => ?_, fun _ => ⟨"accessCode", by decide, rfl⟩, nofun, fun h => ?_, nofun⟩
    · exact absurd (Value.text.inj (Except.ok.inj h)) (by decide)
    · exact absurd (Value.text.inj (Except.ok.inj h)) (by decide)
  have hspelled : (oldDefinitions.map fun e => (e.1, Scheme.restated e.2)) = laterDefinitions :=
    rfl
  have hlater : DeclaresSchemes (Registry.declaring false laterDefinitions) false
      (oldDefinitions.map fun e => (e.1, Scheme.restated e.2)) :=
    hspelled ▸ Registry.declaresSchemes_declaring false laterDefinitions
  exact ⟨hflows, hspelled, Registry.spellings_agree
    (Registry.declaresSchemes_declaring true oldDefinitions) hlater hflows⟩

end RequestAuth
