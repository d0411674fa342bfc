import RequestAuth.Config.Load
import RequestAuth.Document
import RequestAuth.Proofs.KeyText
import RequestAuth.Proofs.Settings
import RequestAuth.Proofs.Utf8

/-!
# What loading a configuration ends in

Loading gives a configuration, or ends in a fault of the configuration, or in a fault of another
kind that escapes (`Config.Escapes`). One escapes when the file cannot be read for any reason but
that it is no YAML, so for each short file that is no UTF-8, and when something cannot be written
where it has to be (`Config.HoldsUnwritable`): an integer with too many digits, or a value that is
nested too deep, as an alias inside an alias inside an alias makes it in a file that itself is flat.
-/

namespace RequestAuth

/-! ### Settings that cannot be written -/

variable {v : Value} {entries table : List (Value × Value)} {fault : Fault} {cause : WriteFault}

theorem AuthenticationType.read_of_writeFault (h : v.writeFault? = some cause) :
    read v = .error (.ofWriting cause) := by
  unfold read
  split
  · cases h
  · cases h
  · exact bind_eq_error.mpr (.inl (Value.written_eq_error.mpr ⟨cause, h, rfl⟩))

theorem AuthenticationType.kind_of_read (h : read v = .error fault) :
    fault.kind = .configuration ∨ v.isWritable = false := by
  unfold read at h
  split at h
  · cases h
  · cases h
  · rcases bind_eq_error.mp h with hwritten | ⟨given, -, h⟩
    · obtain ⟨cause, hcause, -⟩ := Value.written_eq_error.mp hwritten
      exact .inr (congrArg Option.isNone hcause)
    · refine .inl ?_
      dsimp only at h
      split at h
      · cases h
      split at h
      · cases h
      split at h
      · cases h
      split at h
      · cases h
      · cases h
        rfl

theorem isTrue_of_opened (hopened : v.opened = .map table) (htable : table ≠ []) :
    v.isTrue = true := by
  cases v
  case map entries =>
    cases hopened
    cases table with
    | nil => exact absurd rfl htable
    | cons _ _ => rfl
  case cyclic => rfl
  all_goals cases hopened

theorem readKeys_of_firstFault (hopened : v.opened = .map table)
    (h : Value.firstFault? (Value.parts table) = some cause) :
    readKeys v = .error (.ofWriting cause) := by
  have htable : table ≠ [] := by
    rintro rfl
    cases h
  unfold readKeys
  rw [isTrue_of_opened hopened htable, hopened]
  refine bind_eq_error.mpr (.inl ((Value.mapM_writtenEntry table).trans ?_))
  rw [h]
  rfl

theorem kind_of_readKeys (h : readKeys v = .error fault) :
    fault.kind = .configuration ∨ ∃ table cause, v.opened = .map table ∧
      Value.firstFault? (Value.parts table) = some cause ∧ fault = .ofWriting cause := by
  unfold readKeys at h
  split at h
  · cases h
  split at h
  · rename_i table hopened
    rcases bind_eq_error.mp h with htable | ⟨_, -, h⟩
    · obtain ⟨cause, hcause, rfl⟩ :=
        unlessFault_eq_error.mp ((Value.mapM_writtenEntry table).symm.trans htable)
      exact .inr ⟨table, cause, hopened, hcause, rfl⟩
    · cases h
  · obtain ⟨_, _, _, -, -, -, rfl⟩ := readKeyText_eq_error.mp h
    exact .inl rfl
  · cases h
    exact .inl rfl

namespace Config

open Setting

/-- The values of a mapping of settings that are written, in order: its keys, and what it gives for
the texts and for the authentication type, null when it gives nothing. -/
def writtenValues (entries : List (Value × Value)) : List Value :=
  entries.map Prod.fst ++
    (texts ++ [Setting.authenticationType]).map fun s => (given? entries s).getD .null

theorem mem_writtenValues {s : Setting} (hs : s ∈ texts ++ [Setting.authenticationType])
    (hv : IsGiven s v entries) : v ∈ writtenValues entries := by
  have hvalue : (given? entries s).getD .null = v := congrArg (·.getD .null) (given?_eq_some.mpr hv)
  exact List.mem_append_right _ (List.mem_map.mpr ⟨s, hs, hvalue⟩)

/-- The keys are in front, then come the texts, and the authentication type is last. -/
theorem firstFault?_writtenValues (entries : List (Value × Value)) :
    Value.firstFault? (writtenValues entries) =
      (Value.firstFault? (entries.map Prod.fst)).or
        ((Value.firstFault? (texts.map fun s => (given? entries s).getD .null)).or
          ((given? entries .authenticationType).getD .null).writeFault?) := by
  rw [writtenValues, List.map_append, Value.firstFault?_append, Value.firstFault?_append,
    List.map_singleton, Value.firstFault?_singleton]

/-- What is first in the way of writing where a mapping of settings is written. -/
inductive HoldsUnwritable (entries : List (Value × Value)) (cause : WriteFault) : Prop where
  /-- It is in the way of a key, a text or the authentication type. -/
  | setting : Value.firstFault? (writtenValues entries) = some cause →
    HoldsUnwritable entries cause
  /-- It is in the way of the key table, which is read when there is no fault in the others. -/
  | table {v : Value} {table : List (Value × Value)} :
    Value.firstFault? (writtenValues entries) = none →
    (∀ w, IsGiven .authenticationType w entries → ∃ t, AuthenticationType.read w = .ok t) →
    IsGiven .apiKeys v entries → v.opened = .map table →
    Value.firstFault? (Value.parts table) = some cause → HoldsUnwritable entries cause

/-- A mapping that holds such a value gives no configuration. -/
theorem ofEntries_of_holdsUnwritable (h : HoldsUnwritable entries cause) :
    Config.ofEntries entries = .error (.ofWriting cause) := by
  unfold Config.ofEntries
  rw [Value.forM_checkWritable, Value.forM_checkWritable]
  cases h with
  | setting hfirst =>
    rw [firstFault?_writtenValues] at hfirst
    rcases Option.or_eq_some_iff.mp hfirst with hkeys | ⟨hkeys, hfirst⟩
    · rw [hkeys]
      rfl
    rcases Option.or_eq_some_iff.mp hfirst with htexts | ⟨htexts, htype⟩
    · rw [hkeys, htexts]
      rfl
    · rw [hkeys, htexts]
      refine bind_eq_error.mpr (.inr ⟨(), rfl, bind_eq_error.mpr (.inr ⟨(), rfl, ?_⟩)⟩)
      exact bind_eq_error.mpr (.inl (AuthenticationType.read_of_writeFault htype))
  | @table v table hfirst htype hgiven hopened htable =>
    rw [firstFault?_writtenValues, Option.or_eq_none_iff, Option.or_eq_none_iff] at hfirst
    obtain ⟨hkeys, htexts, -⟩ := hfirst
    rw [hkeys, htexts, given?_eq_some.mpr hgiven]
    refine bind_eq_error.mpr (.inr ⟨(), rfl, bind_eq_error.mpr (.inr ⟨(), rfl, ?_⟩)⟩)
    cases hread : AuthenticationType.read ((given? entries .authenticationType).getD .null) with
    | error fault =>
      obtain ⟨w, hw, hfault⟩ := isGiven_of_error AuthenticationType.read rfl hread
      obtain ⟨t, ht⟩ := htype w hw
      cases hfault.symm.trans ht
    | ok t =>
      refine bind_eq_error.mpr (.inr ⟨t, rfl, ?_⟩)
      exact bind_eq_error.mpr (.inl (readKeys_of_firstFault hopened htable))

/-- A text that is given as what cannot be written ends in the fault of writing it, be it an integer
with too many digits or a value that is nested too deep (`Value.writeFault?_nested`). -/
theorem ofEntries_of_text {s : Setting} (hs : s ∈ texts) (hv : v.writeFault? = some cause) :
    Config.ofEntries [(.text s.name, v)] = .error (.ofWriting cause) := by
  have hgiven : IsGiven s v ([] ++ [(.text s.name, v)]) := .last (denotes_name s) nofun
  refine ofEntries_of_holdsUnwritable (.setting (Value.firstFault?_eq_some ?_ ?_))
  · exact ⟨v, mem_writtenValues (List.mem_append_left _ hs) hgiven, hv⟩
  · intro w hw
    rcases List.mem_append.mp hw with hw | hw
    · rw [List.map_singleton, List.mem_singleton] at hw
      subst hw
      exact .inl rfl
    · obtain ⟨t, -, rfl⟩ := List.mem_map.mp hw
      cases ht : given? [(.text s.name, v)] t with
      | none => exact .inl rfl
      | some w =>
        -- there is nothing else that could be given
        obtain ⟨e, he, rfl⟩ := Option.map_eq_some_iff.mp ht
        obtain rfl := List.mem_singleton.mp (List.mem_reverse.mp (List.mem_of_find?_eq_some he))
        exact .inr hv

theorem kind_of_ofEntries (h : Config.ofEntries entries = .error fault) :
    fault.kind = .configuration ∨
      ∃ cause, fault = .ofWriting cause ∧ HoldsUnwritable entries cause := by
  cases hfirst : Value.firstFault? (writtenValues entries) with
  | some cause =>
    have hholds : HoldsUnwritable entries cause := .setting hfirst
    cases (ofEntries_of_holdsUnwritable hholds).symm.trans h
    exact .inr ⟨cause, rfl, hholds⟩
  | none =>
    -- everything in front of the key table can be written
    have hwritable := Value.firstFault?_eq_none.mp hfirst
    cases isRefused_of_ofEntries h with
    | @key e he hkey =>
      have hmem : e.1 ∈ writtenValues entries := List.mem_append_left _ (List.mem_map_of_mem he)
      cases (Value.checkWritable_eq_ok.mpr (hwritable _ hmem)).symm.trans hkey
    | text hs hv htext =>
      have hmem := mem_writtenValues (List.mem_append_left _ hs) hv
      cases (Value.checkWritable_eq_ok.mpr (hwritable _ hmem)).symm.trans htext
    | @type v hv htype =>
      have hmem : v ∈ writtenValues entries :=
        mem_writtenValues (List.mem_append_right _ (.head _)) hv
      refine .inl ((AuthenticationType.kind_of_read htype).resolve_right ?_)
      rw [hwritable _ hmem]
      nofun
    | table htype hv htable =>
      refine (kind_of_readKeys htable).imp id ?_
      rintro ⟨table, cause, hopened, hcause, rfl⟩
      exact ⟨cause, rfl, .table hfirst htype hv hopened hcause⟩

/-! ### Files -/

/-- A fault that escapes from loading a file as it is, without one of the configuration in its
place. -/
inductive Escapes : FileState → Fault → Prop where
  /-- The file cannot be read, and not because it is no YAML. -/
  | unread {bytes : List UInt8} {fault : Fault} : Yaml.read bytes = .error fault →
    fault ≠ .yamlMalformed → Escapes (.content bytes) fault
  /-- Something in it cannot be written. A value that is false counts as an empty mapping. -/
  | unwritable {bytes : List UInt8} {v : Value} {entries : List (Value × Value)}
    {cause : WriteFault} : Yaml.read bytes = .ok v → (v.orElse (.map [])).entries = .ok entries →
    HoldsUnwritable entries cause → Escapes (.content bytes) (.ofWriting cause)

variable {name : Option String} {environment : List (String × String)} {bytes : List UInt8}

/-- A missing file gives every setting as it is when nothing gives it. -/
theorem load_missing (name : Option String) (environment : List (String × String)) :
    ∃ c : Config, load name .missing environment = .ok (c.withEnvironment environment) ∧
      ∀ s : Setting, c.value s = s.initial :=
  ⟨_, rfl, fun s => by cases s <;> rfl⟩

theorem load_of_malformed (h : Yaml.read bytes = .error .yamlMalformed) :
    load name (.content bytes) environment =
      .error (.fileUnreadable .configuration (fileName name) .malformedYaml) := by
  refine bind_eq_error.mpr (.inl ?_)
  simp only [readFile, FileState.bytes, h]

theorem load_of_unread (h : Yaml.read bytes = .error fault) (hfault : fault ≠ .yamlMalformed) :
    load name (.content bytes) environment = .error fault := by
  refine bind_eq_error.mpr (.inl ?_)
  simp only [readFile, FileState.bytes, h]
  split
  · rename_i heq
    exact absurd (Except.error.inj heq) hfault
  · rfl

/-- A value that is read gives its entries, or none when it is false. -/
theorem load_of_read (h : Yaml.read bytes = .ok v) :
    load name (.content bytes) environment =
      match (v.orElse (.map [])).entries with
      | .ok entries => do return (← Config.ofEntries entries).withEnvironment environment
      | .error _ => .error (.fileNoMapping .configuration (fileName name)) := by
  have hread : readFile (fileName name) (.content bytes) = .ok v := by
    simp only [readFile, FileState.bytes, h]
  unfold load
  simp only [hread]
  change (if !(v.orElse (.map [])).isMap then _ else _) = _
  generalize v.orElse (.map []) = data
  have hdata : data.isMap = data.entries.isOk := by
    unfold Value.isMap Value.entries
    split <;> rfl
  unfold Config.ofValue
  rw [hdata]
  cases data.entries with
  | error fault => rfl
  | ok entries => rfl

theorem kind_of_load {file : FileState} (h : load name file environment = .error fault) :
    fault.kind = .configuration ∨ Escapes file fault := by
  cases file with
  | missing =>
    obtain ⟨c, hc, -⟩ := load_missing name environment
    cases hc.symm.trans h
  | directory =>
    cases h
    exact .inl rfl
  | content bytes =>
    cases hread : Yaml.read bytes with
    | error cause =>
      by_cases hcause : cause = .yamlMalformed
      · subst hcause
        cases (load_of_malformed hread).symm.trans h
        exact .inl rfl
      · cases (load_of_unread hread hcause).symm.trans h
        exact .inr (.unread hread hcause)
    | ok v =>
      rw [load_of_read hread] at h
      cases hentries : (v.orElse (.map [])).entries with
      | error _ =>
        rw [hentries] at h
        cases h
        exact .inl rfl
      | ok entries =>
        rw [hentries] at h
        rcases bind_eq_error.mp h with hsettings | ⟨_, -, h⟩
        · refine (kind_of_ofEntries hsettings).imp id ?_
          rintro ⟨cause, rfl, hholds⟩
          exact .unwritable hread hentries hholds
        · cases h

theorem load_of_escapes {file : FileState} (h : Escapes file fault) :
    load name file environment = .error fault := by
  cases h with
  | unread hread hfault => exact load_of_unread hread hfault
  | unwritable hread hentries hholds =>
    rw [load_of_read hread, hentries]
    exact bind_eq_error.mpr (.inl (ofEntries_of_holdsUnwritable hholds))

end Config

/-- The description of a service is refused as a file that cannot be read when it is no UTF-8. -/
theorem Security.load_of_not_utf8 {name : String} {bytes : List UInt8}
    (hname : hasExtension name ".yaml" = true) (hpossible : nameFault? name = none)
    (hbytes : ¬ByteArray.IsValidUTF8 ⟨bytes.toArray⟩)
    (hlength : bytes.length < 2 * Yaml.Source.portion) :
    load name (.content bytes) = .error (.fileUnreadable .documentation name .undecodable) := by
  have hreader : reader? name = some fun bytes => (Yaml.read bytes).mapError yamlFault :=
    if_pos (by rw [hname, Bool.true_or])
  have hread : ((FileState.content bytes).bytes.mapError Sum.inr >>= fun bytes =>
      (Yaml.read bytes).mapError yamlFault) = .error (.inr .undecodable) :=
    congrArg (Except.mapError yamlFault) (Yaml.read_of_not_utf8 hbytes hlength)
  refine bind_eq_error.mpr (.inl ?_)
  unfold readDocument
  simp only [hreader, hpossible, hread]
  rfl

namespace Config

/-- **What loading a configuration ends in.** Loading a file gives a configuration, or ends in a
fault of the configuration, or in one that escapes; and each that escapes is what loading ends in. A
missing file has the configuration in which every setting is as when nothing gives it. A fault
escapes for each file that is no UTF-8 and is decoded at once, whose bytes in a description of a
service would make a fault of that file. -/
theorem faults_of_load (name : Option String) (environment : List (String × String)) :
    (∃ c : Config, load name .missing environment = .ok (c.withEnvironment environment) ∧
      ∀ s : Setting, c.value s = s.initial) ∧
    (∀ file, (∃ c, load name file environment = .ok c) ∨ ∃ fault,
      load name file environment = .error fault ∧
        (fault.kind = .configuration ∨ Escapes file fault)) ∧
    (∀ file fault, Escapes file fault → load name file environment = .error fault) ∧
    ∀ bytes : List UInt8, ¬ByteArray.IsValidUTF8 ⟨bytes.toArray⟩ →
      bytes.length < 2 * Yaml.Source.portion →
      load name (.content bytes) environment = .error .undecodable ∧
      ∀ document, Security.hasExtension document ".yaml" = true → nameFault? document = none →
        Security.load document (.content bytes) =
          .error (.fileUnreadable .documentation document .undecodable) := by
  refine ⟨load_missing name environment, fun file => ?_, fun _ _ => load_of_escapes, ?_⟩
  · cases h : load name file environment with
    | ok c => exact .inl ⟨c, rfl⟩
    | error fault => exact .inr ⟨fault, rfl, kind_of_load h⟩
  · intro bytes hbytes hlength
    refine ⟨load_of_unread (Yaml.read_of_not_utf8 hbytes hlength) nofun, ?_⟩
    exact fun document hname hpossible =>
      Security.load_of_not_utf8 hname hpossible hbytes hlength

/-- A file of a byte that no UTF-8 has ends loading in a fault of another kind. -/
theorem lone_byte_escapes : ∃ fault, load (some "auth.yaml") (.content [0xFF]) [] = .error fault ∧
    fault.kind ≠ .configuration := by
  obtain ⟨-, -, -, hbytes⟩ := faults_of_load (some "auth.yaml") []
  obtain ⟨hload, -⟩ := hbytes [0xFF] (by decide) (by decide)
  exact ⟨.undecodable, hload, by decide⟩

end Config

end RequestAuth
