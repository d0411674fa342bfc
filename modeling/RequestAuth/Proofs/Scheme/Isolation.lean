import RequestAuth.Proofs.Scheme.Definition
import RequestAuth.Proofs.Scheme.Document

/-!
# One definition among others

Reading a document returns exactly when each of its definitions can be read
(`exists_readSchemes_iff`). A definition that is added and can be read leaves what the others give as
it is and contributes its scheme or a warning (`Registry.Adds`). One that cannot, with a text for a
flow, say, loses the whole table: only what is no mapping or has an unknown type is left out.
-/

namespace RequestAuth

variable {version2 : Bool} {document extended name data : Value}
  {pre post definitions : List (Value × Value)}

theorem readSchemes_insert (name data : Value) (pre post : List (Value × Value)) :
    readSchemes version2 (pre ++ (name, data) :: post) = do
      let l ← readSchemes version2 pre
      let outcome ← Scheme.read version2 name data
      let r ← readSchemes version2 post
      return Registry.inFront l (Registry.inFront (Registry.ofOutcome name outcome) r) := by
  rw [readSchemes_append, readSchemes_cons]
  simp only [bind_assoc, pure_bind]

/-- Reading returns when each of the definitions can be read. -/
theorem exists_readSchemes_iff : (∃ r, readSchemes version2 definitions = .ok r) ↔
    ∀ e ∈ definitions, ∃ outcome, Scheme.read version2 e.1 e.2 = .ok outcome := by
  induction definitions with
  | nil => exact ⟨fun _ => nofun, fun _ => ⟨_, rfl⟩⟩
  | cons e rest ih =>
    rw [List.forall_mem_cons, ← ih, readSchemes_cons]
    constructor
    · rintro ⟨r, h⟩
      obtain ⟨outcome, houtcome, h⟩ := bind_eq_ok.mp h
      obtain ⟨l, hl, -⟩ := bind_eq_ok.mp h
      exact ⟨⟨outcome, houtcome⟩, l, hl⟩
    · rintro ⟨⟨outcome, houtcome⟩, l, hl⟩
      exact ⟨_, bind_eq_ok.mpr ⟨outcome, houtcome, bind_eq_ok.mpr ⟨l, hl, rfl⟩⟩⟩

/-- No scheme has a name that is not among those of the definitions. -/
theorem ne_of_mem_readSchemes {r : Registry × List Notice}
    (h : readSchemes version2 definitions = .ok r) (hname : ∀ e ∈ definitions, e.1 ≠ name) :
    ∀ e ∈ r.1, e.1 ≠ name := by
  rintro e he rfl
  obtain ⟨d, hd, heq⟩ := List.mem_map.mp
    ((sublist_of_readSchemes h).subset (List.mem_map_of_mem he))
  exact hname d hd heq

namespace Registry

variable {table : Registry} {name : String}

theorem filter_of_forall_ne (h : ∀ e ∈ table, e.1 ≠ .text name) :
    (table.filter fun e => e.1 != .text name) = table := by
  refine List.filter_eq_self.mpr fun e he => ?_
  simp [bne, mt Value.beq_text_iff.mp (h e he)]

theorem find?_of_forall_ne (h : ∀ e ∈ table, e.1 ≠ .text name) :
    table.find? (.text name) = none := by
  refine List.lookup_eq_none_iff.mpr fun e he => ?_
  simp [bne, (isExact_text name).beq_eq_false (h e he).symm]

/-- A table with its warnings comes of another one by a definition under a new name. -/
structure Adds (name : String) (data : Value) (before after : Registry × List Notice) : Prop where
  /-- The schemes of the other names are as before, in the same order. -/
  others : (after.1.filter fun e => e.1 != .text name) = before.1
  /-- The new name has a scheme and there are no other warnings, or it has none and there is one
  more. -/
  outcome :
    (Scheme.IsKnown data ∧ after.2 = before.2 ∧
      ∃ scheme, after.1.find? (.text name) = some scheme ∧ scheme.name = .text name) ∨
    (¬ Scheme.IsKnown data ∧ after.1.find? (.text name) = none ∧ ∃ front back,
      before.2 = front ++ back ∧
        after.2 = front ++ .warn (Scheme.complaint name data) :: back)

/-- What stands around the outcome of a definition is what there was before. -/
theorem adds_of_read {outcome : Scheme ⊕ Notice} {l r : Registry × List Notice}
    (hl : ∀ e ∈ l.1, e.1 ≠ .text name) (hr : ∀ e ∈ r.1, e.1 ≠ .text name)
    (h : Scheme.read version2 (.text name) data = .ok outcome) :
    Adds name data (inFront l r) (inFront l (inFront (ofOutcome (.text name) outcome) r)) := by
  have hself : ((Value.text name) == .text name) = true := (isExact_text name).refl
  rcases (Scheme.outcome_of_read h).2 with ⟨hknown, scheme, rfl, hname⟩ | ⟨hunknown, rfl⟩
  · constructor
    · -- of what stands between the others, only the new name is dropped
      have hdropped : (Value.text name != .text name) = false := by rw [bne, hself]; rfl
      simp [inFront, ofOutcome, List.filter_append, filter_of_forall_ne hl, filter_of_forall_ne hr,
        hdropped]
    · refine .inl ⟨hknown, by simp [inFront, ofOutcome], scheme, ?_, hname⟩
      have hnone := find?_of_forall_ne hl
      unfold find? at hnone ⊢
      simp [inFront, ofOutcome, List.lookup_append, hnone, List.lookup_cons, hself]
  · constructor
    · simp [inFront, ofOutcome, List.filter_append, filter_of_forall_ne hl, filter_of_forall_ne hr]
    · refine .inr ⟨hunknown, find?_of_forall_ne fun e he => ?_, l.2, r.2, rfl, ?_⟩
      · simp only [inFront, ofOutcome, List.nil_append, List.mem_append] at he
        exact he.elim (hl e) (hr e)
      · simp [inFront, ofOutcome]

/-- **The others are kept.** With a definition added under a new name, reading a document returns
exactly when it returned without and the definition can be read; then the schemes of the other names
are as before, and the new name has a scheme or is left out with a warning. Definitions one list
behind another give what the two lists give, one behind the other. -/
theorem others_kept_when_readable {document extended data : Value} {pre post : List (Value × Value)}
    (hdocument : DeclaresSchemes document version2 (pre ++ post))
    (hextended : DeclaresSchemes extended version2 (pre ++ (.text name, data) :: post))
    (hnew : ∀ e ∈ pre ++ post, e.1 ≠ .text name) :
    ((∃ after, ofDocument extended = .ok after) ↔
      (∃ before, ofDocument document = .ok before) ∧ Scheme.IsReadable version2 data) ∧
    (∀ before after, ofDocument document = .ok before → ofDocument extended = .ok after →
      Adds name data before after) ∧
    ∀ front back whole a b, DeclaresSchemes front version2 a → DeclaresSchemes back version2 b →
      DeclaresSchemes whole version2 (a ++ b) →
      ofDocument whole = do return inFront (← ofDocument front) (← ofDocument back) := by
  rw [hdocument.ofDocument, hextended.ofDocument]
  refine ⟨?_, fun before after hbefore hafter => ?_, fun front back whole a b ha hb hab => ?_⟩
  · -- the two documents differ in one definition, and each definition is read on its own
    rw [exists_readSchemes_iff, exists_readSchemes_iff, ← Scheme.exists_read_iff name]
    simp only [List.forall_mem_append, List.forall_mem_cons]
    rw [and_assoc, and_comm (a := ∃ _, _)]
  · rw [readSchemes_append] at hbefore
    obtain ⟨l, hl, hbefore⟩ := bind_eq_ok.mp hbefore
    obtain ⟨r, hr, hbefore⟩ := bind_eq_ok.mp hbefore
    cases hbefore
    rw [readSchemes_insert] at hafter
    obtain ⟨l', hl', hafter⟩ := bind_eq_ok.mp hafter
    obtain ⟨outcome, houtcome, hafter⟩ := bind_eq_ok.mp hafter
    obtain ⟨r', hr', hafter⟩ := bind_eq_ok.mp hafter
    cases hl.symm.trans hl'
    cases hr.symm.trans hr'
    cases hafter
    obtain ⟨hpre, hpost⟩ := List.forall_mem_append.mp hnew
    exact adds_of_read (ne_of_mem_readSchemes hl hpre) (ne_of_mem_readSchemes hr hpost) houtcome
  · rw [ha.ofDocument, hb.ofDocument, hab.ofDocument, readSchemes_append]

/-- The definition of a key in a header. -/
def headerKey : Value × Value :=
  (.text "key", .map [(.text "type", .text "apiKey"), (.text "in", .text "header")])

/-- A definition whose flow is the address of the token endpoint, and no mapping. -/
def bareFlow : Value :=
  .map [(.text "type", .text "oauth2"),
    (.text "flows", .map [(.text "clientCredentials", .text "https://auth.example.com/token")])]

/-- A flow that is a text loses the key beside it. -/
theorem bare_flow_loses_table :
    (∃ before, ofDocument (declaring false [headerKey]) = .ok before) ∧
      ¬ ∃ after,
        ofDocument (declaring false [headerKey, (.text "oauth", bareFlow)]) = .ok after := by
  have hnew : ∀ e ∈ [headerKey] ++ [], e.1 ≠ .text "oauth" := by
    simp [headerKey]
  obtain ⟨hreturns, -, -⟩ := others_kept_when_readable
    (declaresSchemes_declaring false ([headerKey] ++ []))
    (declaresSchemes_declaring false ([headerKey] ++ (.text "oauth", bareFlow) :: [])) hnew
  refine ⟨⟨_, rfl⟩, fun hafter => ?_⟩
  obtain ⟨outcome, houtcome⟩ := Scheme.exists_read (hreturns.mp hafter).2 "oauth"
  have hfault : Scheme.read false (.text "oauth") bareFlow = .error .memberMissing := rfl
  cases houtcome.symm.trans hfault

end Registry

end RequestAuth
