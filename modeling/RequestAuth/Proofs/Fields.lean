import RequestAuth.Proofs.Form
import RequestAuth.Proofs.Url
import RequestAuth.Token.Endpoint

/-!
# The fields of a form

A form is read by cutting it at its ampersands, and each part at its first equals sign
(`Form.readFields`). What is read of the form of a request for a token are the values that it was
built from: no value ends its field, begins another or is changed.
-/

namespace RequestAuth

namespace Form

/-! ### Reading fields -/

/-- The field of a part of a form: the name in front of the first equals sign and the decoded value
behind it. Without an equals sign there is none. -/
def readField (part : List Char) : Option (String × String) :=
  if part.contains '=' then
    let (name, value) := Url.cut '=' part
    (decode? (String.ofList value)).map fun value => (String.ofList name, value)
  else none

/-- The fields of a form, whose parts stand between ampersands. -/
def readFields (body : String) : Option (List (String × String)) :=
  (body.toList.splitOn '&').mapM readField

variable {name value : String} {fields : List (String × String)}

/-- A name may stand in a field: it holds no ampersand and no equals sign. -/
def IsFieldName (name : String) : Prop := '&' ∉ name.toList ∧ '=' ∉ name.toList

instance (name : String) : Decidable (IsFieldName name) :=
  inferInstanceAs (Decidable ('&' ∉ name.toList ∧ '=' ∉ name.toList))

theorem readField_pair (h : IsFieldName name) (value : String) :
    readField (pair name value).toList = some (name, value) := by
  have hlist : (pair name value).toList = name.toList ++ '=' :: (encode value).toList := by
    simp [pair]
  unfold readField
  rw [hlist, if_pos (by simp), Url.cut_append_cons h.2]
  simp only [String.ofList_toList, decode?_encode, Option.map_some]

theorem mapM_readField (h : ∀ f ∈ fields, IsFieldName f.1) :
    (fields.map fun f => (pair f.1 f.2).toList).mapM readField = some fields := by
  induction fields with
  | nil => rfl
  | cons f fields ih =>
    obtain ⟨hf, hfields⟩ := List.forall_mem_cons.mp h
    rw [List.map_cons, List.mapM_cons, readField_pair hf, ih hfields]
    rfl

/-- Pairs with ampersands between them are read as the fields that they were built from. -/
theorem readFields_intercalate (hne : fields ≠ []) (h : ∀ f ∈ fields, IsFieldName f.1) :
    readFields (String.intercalate "&" (fields.map fun f => pair f.1 f.2)) = some fields := by
  have hparts : ∀ part ∈ fields.map fun f => (pair f.1 f.2).toList, '&' ∉ part := by
    intro part hpart
    obtain ⟨f, hf, rfl⟩ := List.mem_map.mp hpart
    exact not_mem_pair (h f hf).1 (by decide) (by decide)
  have hsplit : (String.intercalate "&" (fields.map fun f => pair f.1 f.2)).toList.splitOn '&' =
      fields.map fun f => (pair f.1 f.2).toList := by
    rw [String.toList_intercalate, List.map_map]
    exact List.splitOn_intercalate '&' hparts (by simpa using hne)
  rw [readFields, hsplit, mapM_readField h]

end Form

/-! ### The form of a request for a token -/

/-- The field of a name and a value that has characters. -/
def filledField (name : String) (value : Option String) : List (String × String) :=
  ((value.filter (!·.isEmpty)).map fun v => (name, v)).toList

/-- The fields of a request for a token. -/
def tokenFields (grant : String) (username password : Option String) : List (String × String) :=
  ("grant_type", grant) :: (filledField "username" username ++ filledField "password" password)

variable {grant : String} {username password : Option String}

theorem filledPair_eq (name : String) (value : Option String) :
    filledPair name value = (filledField name value).map fun f => Form.pair f.1 f.2 := by
  unfold filledPair filledField
  cases value.filter (!·.isEmpty) with
  | none => rfl
  | some v => rfl

theorem tokenForm_eq (h : grant ≠ "") (username password : Option String) :
    tokenForm (some grant) username password = .ok (String.intercalate "&"
      ((tokenFields grant username password).map fun f => Form.pair f.1 f.2)) := by
  have hgrant : (some grant).filter (!·.isEmpty) = some grant := by simpa [Option.filter] using h
  rw [tokenForm, hgrant, filledPair_eq, filledPair_eq, tokenFields, List.map_cons, List.map_append]
  rfl

theorem isFieldName_of_mem_tokenFields :
    ∀ f ∈ tokenFields grant username password, Form.IsFieldName f.1 := by
  have hfilled {name : String} (hname : Form.IsFieldName name) (value : Option String) :
      ∀ f ∈ filledField name value, Form.IsFieldName f.1 := by
    intro f hf
    obtain ⟨v, -, rfl⟩ := Option.map_eq_some_iff.mp (Option.mem_toList.mp hf)
    exact hname
  have hgrant : Form.IsFieldName "grant_type" := by decide
  exact List.forall_mem_cons.mpr ⟨hgrant, List.forall_mem_append.mpr
    ⟨hfilled (by decide) username, hfilled (by decide) password⟩⟩

theorem lookup_tokenFields :
    (tokenFields grant username password).lookup "username" = username.filter (!·.isEmpty) ∧
      (tokenFields grant username password).lookup "password" =
        password.filter (!·.isEmpty) := by
  unfold tokenFields filledField
  cases username.filter (!·.isEmpty) with
  | none => cases password.filter (!·.isEmpty) with
    | none => exact ⟨rfl, rfl⟩
    | some p => exact ⟨rfl, rfl⟩
  | some u => cases password.filter (!·.isEmpty) with
    | none => exact ⟨rfl, rfl⟩
    | some p => exact ⟨rfl, rfl⟩

theorem readFields_tokenForm (h : grant ≠ "") (username password : Option String) :
    ∃ body, tokenForm (some grant) username password = .ok body ∧
      Form.readFields body = some (tokenFields grant username password) :=
  ⟨_, tokenForm_eq h username password,
    Form.readFields_intercalate (List.cons_ne_nil _ _) isFieldName_of_mem_tokenFields⟩

/-- **No value breaks out of its field.** The value of a pair is encoded into letters, digits, a few
marks and escaped bytes, from which it is read back. The form of a request for a token, which there
is for each grant type with characters, is read as just the grant type, the user and the password,
the last two when they have characters; so these values are the same when the form is. -/
theorem values_stay_in_their_fields :
    (∀ key value, ∃ e, Form.pair key value = key ++ "=" ++ e ∧ Form.IsEncodedText e.toList ∧
      Form.decode? e = some value) ∧
    (∀ grant username password, grant ≠ "" →
      ∃ body, tokenForm (some grant) username password = .ok body ∧
        Form.readFields body = some (("grant_type", grant) ::
          (filledField "username" username ++ filledField "password" password))) ∧
    ∀ grant username password grant' username' password', grant ≠ "" → grant' ≠ "" →
      tokenForm (some grant) username password = tokenForm (some grant') username' password' →
        grant' = grant ∧ username'.filter (!·.isEmpty) = username.filter (!·.isEmpty) ∧
          password'.filter (!·.isEmpty) = password.filter (!·.isEmpty) := by
  refine ⟨fun key value => ?pair, fun grant username password h => ?form, ?same⟩
  case pair =>
    exact ⟨_, rfl, Form.isEncodedText_encode value, Form.decode?_encode value⟩
  case form => exact readFields_tokenForm h username password
  case same =>
    intro grant username password grant' username' password' h h' hsame
    obtain ⟨body, hbody, hfields⟩ := readFields_tokenForm h username password
    obtain ⟨body', hbody', hfields'⟩ := readFields_tokenForm h' username' password'
    obtain rfl : body' = body := Except.ok.inj (hbody'.symm.trans (hsame.symm.trans hbody))
    have heq : tokenFields grant' username' password' = tokenFields grant username password :=
      Option.some.inj (hfields'.symm.trans hfields)
    have hgrant : grant' = grant := (Prod.mk.inj (List.cons.inj heq).1).2
    refine ⟨hgrant, ?_, ?_⟩
    · rw [← lookup_tokenFields.1, heq, lookup_tokenFields.1]
    · rw [← lookup_tokenFields.2, heq, lookup_tokenFields.2]

/-- A user that looks like another field, and a password with many kinds of characters, are read back;
and a user without characters is none. -/
theorem crafted_values_stay :
    (∃ e, Form.pair "k" "a b&c=é" = "k" ++ "=" ++ e ∧ Form.IsEncodedText e.toList ∧
      Form.decode? e = some "a b&c=é") ∧
    (∃ body, tokenForm (some "password") (some "u&scope=all") (some "+%ü=") = .ok body ∧
      Form.readFields body = some [("grant_type", "password"), ("username", "u&scope=all"),
        ("password", "+%ü=")]) ∧
    tokenForm (some "password") (some "") (some "p") = tokenForm (some "password") none (some "p") ∧
    (none : Option String).filter (!·.isEmpty) = (some "").filter (!·.isEmpty) := by
  have hsame : tokenForm (some "password") (some "") (some "p") =
      tokenForm (some "password") none (some "p") := rfl
  obtain ⟨hpair, hform, hvalues⟩ := values_stay_in_their_fields
  exact ⟨hpair "k" "a b&c=é",
    hform "password" (some "u&scope=all") (some "+%ü=") (by decide), hsame,
    (hvalues _ _ _ _ _ _ (by decide) (by decide) hsame).2.1⟩

end RequestAuth
