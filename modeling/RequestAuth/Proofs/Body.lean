import RequestAuth.Proofs.Answer
import RequestAuth.Proofs.Numeral

/-!
# What the body of an answer says

An object describes a token when it has an access token that counts as true and a lifetime that is
absent, null, or a whole number (`DescribesToken`), which may be written as a truth value, as a
double or as a text. The answers that give a token are those with a success status and such a body
(`readAnswer_eq_ok`).
-/

namespace RequestAuth

/-! ### Values in JSON -/

namespace Json

variable {rest : List Char} {v : Value}

theorem opened_of_number {negative : Bool} {s : List Char}
    (h : number negative s = .ok (v, rest)) : v.opened = v := by
  unfold number at h
  split at h
  · cases h
  · dsimp only at h
    split at h
    · split at h
      · cases h
      · cases h
        rfl
    · cases h
      rfl

theorem opened_of_scalar {s : List Char} (h : scalar s = .ok (v, rest)) : v.opened = v := by
  unfold scalar at h
  split at h
  · rename_i found hfound
    cases h
    obtain ⟨⟨word, w⟩, hmem, hword⟩ := List.exists_of_findSome?_eq_some hfound
    obtain ⟨after, -, heq⟩ := Option.map_eq_some_iff.mp hword
    cases heq
    simp only [words, List.mem_cons, List.not_mem_nil, or_false, Prod.mk.injEq] at hmem
    rcases hmem with ⟨-, rfl⟩ | ⟨-, rfl⟩ | ⟨-, rfl⟩ | ⟨-, rfl⟩ | ⟨-, rfl⟩ | ⟨-, rfl⟩ <;> rfl
  · split at h
    · exact opened_of_number h
    · exact opened_of_number h

theorem opened_of_value {depth fuel : Nat} {s : List Char}
    (h : value depth fuel s = .ok (v, rest)) : v.opened = v := by
  cases fuel with
  | zero =>
    rw [value] at h
    cases h
  | succ fuel =>
    unfold value at h
    split at h
    · split at h
      · cases h
        rfl
      · cases h
    · split at h
      · cases h
      · split at h
        · cases h
          rfl
        · obtain ⟨items, -, h⟩ := bind_eq_ok.mp h
          cases h
          rfl
    · split at h
      · cases h
      · split at h
        · cases h
          rfl
        · obtain ⟨entries, -, h⟩ := bind_eq_ok.mp h
          cases h
          rfl
    · exact opened_of_scalar h

/-- No value that is read contains itself. -/
theorem opened_of_read {s : String} (h : read s = .ok v) : v.opened = v := by
  unfold read at h
  obtain ⟨⟨w, rest⟩, hvalue, h⟩ := bind_eq_ok.mp h
  dsimp only at h
  split at h
  · cases h
    exact opened_of_value hvalue
  · cases h

/-- An object that is read has its entries at hand. -/
theorem exists_eq_map_of_read {s : String} (h : read s = .ok v) (hobject : v.isMap = true) :
    ∃ entries, v = .map entries := by
  unfold Value.isMap at hobject
  rw [opened_of_read h] at hobject
  split at hobject
  · exact ⟨_, rfl⟩
  · cases hobject

end Json

/-! ### Whole numbers -/

/-- A value stands for an integer: a truth value for 1 or 0, a double that is not infinite for its
part before the point, and a text for the integer that it spells. -/
inductive Value.IsWhole : Value → Int → Prop where
  /-- A truth value. -/
  | bool (b : Bool) : IsWhole (.bool b) (if b then 1 else 0)
  /-- An integer. -/
  | int (n : Int) : IsWhole (.int n) n
  /-- A double. -/
  | float {x : Float} : x.isInf = false → IsWhole (.float x) (truncated x)
  /-- A text. -/
  | text {s : String} {n : Int} : Text.Spells s.toList n → IsWhole (.text s) n

/-- A value is a lifetime: null stands for none, and a whole number for as many seconds. -/
inductive Value.IsLifetime : Value → Option Int → Prop where
  /-- There is no end. -/
  | unlimited : IsLifetime .null none
  /-- The seconds are limited. -/
  | limited {v : Value} {n : Int} : v.IsWhole n → IsLifetime v (some n)

/-- The seconds that can be read are the whole numbers. -/
theorem readSeconds_eq_ok {v : Value} {n : Int} : readSeconds v = .ok n ↔ v.IsWhole n := by
  constructor
  · intro h
    cases v with
    | bool b =>
      cases h
      exact .bool b
    | int m =>
      cases h
      exact .int n
    | float x =>
      unfold readSeconds at h
      dsimp only at h
      split at h
      · cases h
      · rename_i hinf
        cases h
        exact .float (by simpa using hinf)
    | text s =>
      unfold readSeconds at h
      dsimp only at h
      split at h
      · rename_i m hread
        cases h
        exact .text (Text.readInt?_eq_some.mp hread)
      · cases h
    | _ => cases h
  · rintro (b | n | hinf | hspells)
    · rfl
    · rfl
    · simp [readSeconds, hinf]
    · simp [readSeconds, Text.readInt?_eq_some.mpr hspells]

theorem readLifetime_eq_ok {v : Value} {lifetime : Option Int} :
    readLifetime v = .ok lifetime ↔ v.IsLifetime lifetime := by
  constructor
  · intro h
    unfold readLifetime at h
    split at h
    · cases h
      exact .unlimited
    · cases hseconds : readSeconds v with
      | error fault =>
        rw [hseconds] at h
        cases h
      | ok n =>
        rw [hseconds] at h
        cases h
        exact .limited (readSeconds_eq_ok.mp hseconds)
  · rintro (_ | hwhole)
    · rfl
    · have hseconds := readSeconds_eq_ok.mpr hwhole
      cases hwhole <;> simp [readLifetime, hseconds, Except.map]

/-! ### Tokens -/

/-- The entries of an object describe a token. -/
inductive DescribesToken (entries : List (Value × Value)) : Token → Prop where
  /-- There is an access token that counts as true, and what the lifetime is, if it is there, is
  one. Without a type the token is one to bear. -/
  | token {access : Value} {lifetime : Option Int} :
    Value.lookup? entries "access_token" = some access → access.isTrue = true →
    ((Value.lookup? entries "expires_in").getD .null).IsLifetime lifetime →
    DescribesToken entries
      ⟨access, (Value.lookup? entries "token_type").getD (.text "Bearer"), lifetime, .map entries⟩

variable {entries : List (Value × Value)} {token : Token}

theorem Token.read_map_eq_ok :
    Token.read (.map entries) = .ok token ↔ DescribesToken entries token := by
  rw [Token.read_eq rfl rfl rfl]
  constructor
  · intro h
    split at h
    · rename_i htrue
      cases hlifetime : readLifetime ((Value.lookup? entries "expires_in").getD .null) with
      | error fault =>
        rw [hlifetime] at h
        cases h
      | ok lifetime =>
        rw [hlifetime] at h
        cases h
        cases haccess : Value.lookup? entries "access_token" with
        | none =>
          rw [haccess] at htrue
          cases htrue
        | some access =>
          rw [haccess] at htrue
          exact .token haccess htrue (readLifetime_eq_ok.mp hlifetime)
    · cases h
  · rintro ⟨haccess, htrue, hlifetime⟩
    rw [haccess, Option.getD_some, if_pos htrue, readLifetime_eq_ok.mpr hlifetime]
    rfl

theorem isSuccess_iff {status : Int} : isSuccess status = true ↔ 200 ≤ status ∧ status < 300 := by
  simp [isSuccess]

/-- The answers that give a token. -/
theorem readAnswer_eq_ok {status : Int} {body : String} : readAnswer status body = .ok token ↔
    200 ≤ status ∧ status < 300 ∧
      ∃ entries, Json.read body = .ok (.map entries) ∧ DescribesToken entries token := by
  rw [← and_assoc, ← isSuccess_iff]
  constructor
  · intro h
    rcases readAnswer_cases status body with
      ⟨collection, -, ha⟩ | ⟨answer, ha⟩ | ⟨data, lifetime, access, type, hgrants, -, -⟩
    · cases ha.symm.trans h
    · cases ha.symm.trans h
    · obtain ⟨entries, rfl⟩ := Json.exists_eq_map_of_read hgrants.reads hgrants.object
      rw [readAnswer_of_success hgrants.reads rfl hgrants.success] at h
      exact ⟨hgrants.success, entries, hgrants.reads, Token.read_map_eq_ok.mp h⟩
  · rintro ⟨hsuccess, entries, hreads, hdescribes⟩
    rw [readAnswer_of_success hreads rfl hsuccess]
    exact Token.read_map_eq_ok.mpr hdescribes

/-! ### Objects of texts -/

/-- The entries of an object whose keys and values are texts. -/
def textEntries (texts : List (String × String)) : List (Value × Value) :=
  texts.map fun e => (.text e.1, .text e.2)

/-- Whether entries are such ones. -/
def areTexts : List (Value × Value) → List (String × String) → Bool
  | [], [] => true
  | (.text key, .text v) :: entries, (key', v') :: texts =>
    key == key' && v == v' && areTexts entries texts
  | _, _ => false

/-- Whether an object of these texts was read. -/
def isTextObject (texts : List (String × String)) : Except ReadFault Value → Bool
  | .ok (.map entries) => areTexts entries texts
  | _ => false

theorem eq_textEntries {texts : List (String × String)} (h : areTexts entries texts = true) :
    entries = textEntries texts := by
  fun_induction areTexts with
  | case1 => rfl
  | case2 key v entries key' v' texts ih =>
    simp only [Bool.and_eq_true, beq_iff_eq] at h
    obtain ⟨⟨rfl, rfl⟩, hrest⟩ := h
    rw [ih hrest]
    rfl
  | case3 => cases h

theorem eq_map_textEntries {texts : List (String × String)} {read : Except ReadFault Value}
    (h : isTextObject texts read = true) : read = .ok (.map (textEntries texts)) := by
  unfold isTextObject at h
  split at h
  · rw [eq_textEntries h]
  · cases h

end RequestAuth
