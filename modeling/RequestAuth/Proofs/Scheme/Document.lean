import RequestAuth.Scheme.Reader
import RequestAuth.Proofs.Member
import RequestAuth.Proofs.Written

/-!
# The definitions of a document

What a document declares (`DeclaresSchemes`) is all that its schemes and warnings depend on. Reading
definitions one list behind another gives what the two lists give, one behind the other
(`readSchemes_append`), so that a fault comes from the first definition that has one.
-/

namespace RequestAuth

/-- A document declares definitions of schemes, in order: under `securityDefinitions` when the text
of its `swagger` begins with `2.`, and otherwise in its `components`, under `securitySchemes`. What
is false counts as an empty mapping. -/
inductive DeclaresSchemes (document : Value) : Bool → List (Value × Value) → Prop where
  /-- The document is of version 2. -/
  | version2 {mark held : Value} {definitions : List (Value × Value)} :
    document.memberOr "swagger" (.text "") = .ok mark → mark.isWritable = true →
    "2.".toList <+: mark.toText.toList →
    document.member "securityDefinitions" = .ok held →
    (held.orElse (.map [])).entries = .ok definitions → DeclaresSchemes document true definitions
  /-- The document is of a later version. -/
  | later {mark components held : Value} {definitions : List (Value × Value)} :
    document.memberOr "swagger" (.text "") = .ok mark → mark.isWritable = true →
    ¬ "2.".toList <+: mark.toText.toList →
    document.member "components" = .ok components →
    (components.orElse (.map [])).member "securitySchemes" = .ok held →
    (held.orElse (.map [])).entries = .ok definitions → DeclaresSchemes document false definitions

variable {version2 : Bool} {document mark : Value} {definitions : List (Value × Value)}

theorem isVersion2_of_mark (hmark : document.memberOr "swagger" (.text "") = .ok mark)
    (hwritable : mark.isWritable = true) :
    isVersion2 document = .ok (mark.toText.startsWith "2.") := by
  have hwritten := Value.written_eq_ok.mpr ⟨hwritable, rfl⟩
  unfold isVersion2
  exact bind_eq_ok.mpr ⟨mark, hmark, bind_eq_ok.mpr ⟨_, hwritten, rfl⟩⟩

/-- The schemes of a document are those of the definitions that it declares. -/
theorem DeclaresSchemes.ofDocument (h : DeclaresSchemes document version2 definitions) :
    Registry.ofDocument document = readSchemes version2 definitions := by
  unfold Registry.ofDocument schemeDefinitions
  cases h with
  | version2 hmark hwritable hbegins hheld hentries =>
    rw [isVersion2_of_mark hmark hwritable, String.startsWith_string_iff.mpr hbegins]
    simp only [hheld, hentries, bind, Except.bind, pure, Except.pure, if_true]
  | later hmark hwritable hbegins hcomponents hheld hentries =>
    rw [isVersion2_of_mark hmark hwritable,
      Bool.eq_false_iff.mpr (mt String.startsWith_string_iff.mp hbegins)]
    simp only [hcomponents, hheld, hentries, bind, Except.bind, pure, Except.pure,
      Bool.false_eq_true, if_false]

/-- A document with nothing but definitions. -/
def Registry.declaring (version2 : Bool) (definitions : List (Value × Value)) : Value :=
  if version2 then
    .map [(.text "swagger", .text "2.0"), (.text "securityDefinitions", .map definitions)]
  else .map [(.text "components", .map [(.text "securitySchemes", .map definitions)])]

theorem Registry.declaresSchemes_declaring (version2 : Bool)
    (definitions : List (Value × Value)) :
    DeclaresSchemes (declaring version2 definitions) version2 definitions := by
  have hentries : ((Value.map definitions).orElse (.map [])).entries = .ok definitions :=
    congrArg Value.entries (Value.map_orElse_empty definitions)
  cases version2 with
  | true =>
    have hmark : "2.".toList <+: (Value.text "2.0").toText.toList := by decide
    exact .version2 rfl rfl hmark rfl hentries
  | false =>
    have hmark : ¬ "2.".toList <+: (Value.text "").toText.toList := by decide
    exact .later rfl rfl hmark rfl rfl hentries

/-! ### Lists of definitions -/

/-- The table and the warnings that one definition contributes. -/
def Registry.ofOutcome (name : Value) : Scheme ⊕ Notice → Registry × List Notice
  | .inl scheme => ([(name, scheme)], [])
  | .inr notice => ([], [notice])

/-- A table with its warnings in front of another one. -/
def Registry.inFront (l r : Registry × List Notice) : Registry × List Notice :=
  (l.1 ++ r.1, l.2 ++ r.2)

theorem readSchemes_cons (name data : Value) (rest : List (Value × Value)) :
    readSchemes version2 ((name, data) :: rest) = do
      let outcome ← Scheme.read version2 name data
      return Registry.inFront (Registry.ofOutcome name outcome) (← readSchemes version2 rest) := by
  rw [readSchemes]
  cases Scheme.read version2 name data with
  | error _ => rfl
  | ok outcome =>
    cases outcome with
    | inl _ => cases readSchemes version2 rest <;> rfl
    | inr _ => cases readSchemes version2 rest <;> rfl

/-- Two lists of definitions, one behind the other, give what each of them gives. -/
theorem readSchemes_append (a b : List (Value × Value)) :
    readSchemes version2 (a ++ b) = do
      return Registry.inFront (← readSchemes version2 a) (← readSchemes version2 b) := by
  induction a with
  | nil =>
    rw [List.nil_append, readSchemes]
    cases readSchemes version2 b <;> rfl
  | cons e a ih =>
    obtain ⟨name, data⟩ := e
    rw [List.cons_append, readSchemes_cons, readSchemes_cons, ih]
    cases Scheme.read version2 name data with
    | error _ => rfl
    | ok outcome =>
      cases readSchemes version2 a with
      | error _ => rfl
      | ok l =>
        cases readSchemes version2 b with
        | error _ => rfl
        | ok r => simp [Registry.inFront, bind, Except.bind, pure, Except.pure]

/-- The names in a table stand in the order of the definitions. -/
theorem sublist_of_readSchemes {r : Registry × List Notice}
    (h : readSchemes version2 definitions = .ok r) :
    (r.1.map Prod.fst).Sublist (definitions.map Prod.fst) := by
  induction definitions generalizing r with
  | nil =>
    cases h
    exact .slnil
  | cons e rest ih =>
    rw [readSchemes_cons] at h
    obtain ⟨outcome, -, h⟩ := bind_eq_ok.mp h
    obtain ⟨l, hl, h⟩ := bind_eq_ok.mp h
    cases h
    cases outcome with
    | inl scheme => exact (ih hl).cons_cons e.1
    | inr notice => exact (ih hl).cons e.1

end RequestAuth
