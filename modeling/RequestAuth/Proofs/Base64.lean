import RequestAuth.Proofs.Form
import RequestAuth.Proofs.Url

/-!
# Users and secrets in base64

Bytes in base64 are groups of four symbols, of which the last one may end in pads, and they are read
back (`Base64.IsEncodedText`, `Base64.decode?_encode`). So what follows the word for the
authentication scheme is read as the user, a colon and the secret. A receiver takes the first colon
for the one between them (`readCredentials`), which it is just when the user has none.
-/

namespace RequestAuth

namespace Base64

/-! ### Symbols -/

/-- Whether a character stands for six bits. -/
def isSymbol (c : Char) : Bool := c.isAlphanum || c == '-' || c == '_'

/-- The symbol of a number stands for that number. -/
theorem symbol_digit : ∀ n < 64, isSymbol (symbol n) = true ∧ value? (symbol n) = some n := by
  decide

theorem ne_pad_of_isSymbol {c : Char} (h : isSymbol c = true) : c ≠ '=' := by
  rintro rfl
  revert h
  decide

/-- A text is made of groups of four symbols, the last of which may end in one or two pads. -/
inductive IsEncodedText : List Char → Prop where
  /-- There is nothing. -/
  | nil : IsEncodedText []
  /-- The last group stands for one byte. -/
  | one {p q : Char} : isSymbol p = true → isSymbol q = true → IsEncodedText [p, q, '=', '=']
  /-- The last group stands for two bytes. -/
  | two {p q r : Char} : isSymbol p = true → isSymbol q = true → isSymbol r = true →
    IsEncodedText [p, q, r, '=']
  /-- A group stands for three bytes. -/
  | three {p q r s : Char} {rest : List Char} : isSymbol p = true → isSymbol q = true →
    isSymbol r = true → isSymbol s = true → IsEncodedText rest →
    IsEncodedText (p :: q :: r :: s :: rest)

theorem isEncodedText_encode (bytes : List UInt8) : IsEncodedText (encode bytes) := by
  have hsymbol {n : Nat} (hn : n < 64) : isSymbol (symbol n) = true := (symbol_digit n hn).1
  fun_induction encode bytes with
  | case1 => exact .nil
  | case2 a =>
    have ha := a.toNat_lt
    exact .one (hsymbol (by omega)) (hsymbol (by omega))
  | case3 a b =>
    have ha := a.toNat_lt
    have hb := b.toNat_lt
    exact .two (hsymbol (by omega)) (hsymbol (by omega)) (hsymbol (by omega))
  | case4 a b c rest ih =>
    have ha := a.toNat_lt
    have hb := b.toNat_lt
    have hc := c.toNat_lt
    exact .three (hsymbol (by omega)) (hsymbol (by omega)) (hsymbol (by omega))
      (hsymbol (by omega)) ih

/-- The groups together are symbols with at most two pads behind them. -/
theorem IsEncodedText.exists_pads {text : List Char} (h : IsEncodedText text) :
    ∃ symbols pads, text = symbols ++ List.replicate pads '=' ∧ pads ≤ 2 ∧
      ∀ c ∈ symbols, isSymbol c = true := by
  induction h with
  | nil => exact ⟨[], 0, rfl, by omega, nofun⟩
  | @one p q hp hq => exact ⟨[p, q], 2, rfl, by omega, by simp [hp, hq]⟩
  | @two p q r hp hq hr => exact ⟨[p, q, r], 1, rfl, by omega, by simp [hp, hq, hr]⟩
  | @three p q r s rest hp hq hr hs _ ih =>
    obtain ⟨symbols, pads, rfl, hpads, hsymbols⟩ := ih
    exact ⟨p :: q :: r :: s :: symbols, pads, rfl, hpads, by simpa [hp, hq, hr, hs] using hsymbols⟩

/-! ### Reading back -/

/-- A group without a pad at its end is read before the rest. -/
theorem decode?_group {p q r s : Char} (hs : s ≠ '=') (rest : List Char) :
    decode? (p :: q :: r :: s :: rest) = (do
      let v ← value? q
      let w ← value? r
      let tail ← decode? rest
      return ((← value? p) * 4 + v / 16).toUInt8 :: (v % 16 * 16 + w / 4).toUInt8 ::
        (w % 4 * 64 + (← value? s)).toUInt8 :: tail) := by
  rw [decode?]
  · exact fun _ h _ => absurd h hs
  · exact fun h _ => absurd h hs

/-- A last group with one pad stands for two bytes. -/
theorem decode?_padded {p q r : Char} (hr : r ≠ '=') :
    decode? [p, q, r, '='] = (do
      let v ← value? q
      let w ← value? r
      return [((← value? p) * 4 + v / 16).toUInt8, (v % 16 * 16 + w / 4).toUInt8]) := by
  rw [decode?]
  exact hr

theorem toUInt8_of_eq_toNat {n : Nat} {b : UInt8} (h : n = b.toNat) : n.toUInt8 = b := by
  simp [h]

/-- Encoded bytes are read back. -/
theorem decode?_encode (bytes : List UInt8) : decode? (encode bytes) = some bytes := by
  have hvalue {n : Nat} (hn : n < 64) : value? (symbol n) = some n := (symbol_digit n hn).2
  have hsymbol {n : Nat} (hn : n < 64) : symbol n ≠ '=' :=
    ne_pad_of_isSymbol (symbol_digit n hn).1
  fun_induction encode bytes with
  | case1 => rfl
  | case2 a =>
    have ha := a.toNat_lt
    have hone : (a.toNat / 4 * 4 + a.toNat % 4 * 16 / 16).toUInt8 = a :=
      toUInt8_of_eq_toNat (by omega)
    rw [decode?, hvalue (by omega), hvalue (by omega)]
    simp only [Option.bind_eq_bind, Option.bind_some, hone]
    rfl
  | case3 a b =>
    have ha := a.toNat_lt
    have hb := b.toNat_lt
    have hone : (a.toNat / 4 * 4 + (a.toNat % 4 * 16 + b.toNat / 16) / 16).toUInt8 = a :=
      toUInt8_of_eq_toNat (by omega)
    have htwo : ((a.toNat % 4 * 16 + b.toNat / 16) % 16 * 16 +
        b.toNat % 16 * 4 / 4).toUInt8 = b := toUInt8_of_eq_toNat (by omega)
    rw [decode?_padded (hsymbol (by omega)), hvalue (by omega), hvalue (by omega),
      hvalue (by omega)]
    simp only [Option.bind_eq_bind, Option.bind_some, hone, htwo]
    rfl
  | case4 a b c rest ih =>
    have ha := a.toNat_lt
    have hb := b.toNat_lt
    have hc := c.toNat_lt
    have hone : (a.toNat / 4 * 4 + (a.toNat % 4 * 16 + b.toNat / 16) / 16).toUInt8 = a :=
      toUInt8_of_eq_toNat (by omega)
    have htwo : ((a.toNat % 4 * 16 + b.toNat / 16) % 16 * 16 +
        (b.toNat % 16 * 4 + c.toNat / 64) / 4).toUInt8 = b := toUInt8_of_eq_toNat (by omega)
    have hthree : ((b.toNat % 16 * 4 + c.toNat / 64) % 4 * 64 + c.toNat % 64).toUInt8 = c :=
      toUInt8_of_eq_toNat (by omega)
    rw [decode?_group (hsymbol (by omega)), ih, hvalue (by omega), hvalue (by omega),
      hvalue (by omega), hvalue (by omega)]
    simp only [Option.bind_eq_bind, Option.bind_some, hone, htwo, hthree]
    rfl

end Base64

/-! ### A user and a secret -/

/-- The text that credentials stand for. -/
def credentialsText? (credentials : String) : Option String := do
  String.fromUTF8? ⟨(← Base64.decode? credentials.toList).toArray⟩

/-- What a receiver of credentials takes for the user and the secret: what stands in front of the
first colon, and what stands behind it. Without a colon there is neither. -/
def readCredentials (credentials : String) : Option (String × String) := do
  let text ← credentialsText? credentials
  if ':' ∈ text.toList then
    let (user, secret) := Url.cut ':' text.toList
    return (String.ofList user, String.ofList secret)
  else none

variable {user secret : String}

theorem credentialsText?_basicCredentials (user secret : String) :
    credentialsText? (basicCredentials user secret) = some (user ++ ":" ++ secret) := by
  rw [credentialsText?, basicCredentials, String.toList_ofList, Base64.decode?_encode]
  exact Form.fromUTF8?_toUTF8 (user ++ ":" ++ secret)

/-- Whatever the user is, the front of it without a colon is taken for the user. -/
theorem readCredentials_basicCredentials (user secret : String) :
    readCredentials (basicCredentials user secret) =
      some (String.ofList (Url.cut ':' (user.toList ++ ':' :: secret.toList)).1,
        String.ofList (Url.cut ':' (user.toList ++ ':' :: secret.toList)).2) := by
  have htext : (user ++ ":" ++ secret).toList = user.toList ++ ':' :: secret.toList := by simp
  rw [readCredentials, credentialsText?_basicCredentials]
  simp only [Option.bind_eq_bind, Option.bind_some, htext]
  rw [if_pos (by simp)]
  rfl

/-- The first colon is the one between the user and the secret just when the user has none. -/
theorem readCredentials_eq_iff :
    readCredentials (basicCredentials user secret) = some (user, secret) ↔ ':' ∉ user.toList := by
  rw [readCredentials_basicCredentials]
  constructor
  · intro h
    have huser := (Prod.mk.inj (Option.some.inj h)).1
    rw [← huser, String.toList_ofList]
    exact Url.not_mem_cut ':' _
  · intro h
    rw [Url.cut_append_cons h, String.ofList_toList, String.ofList_toList]

/-- **Credentials are read back.** The user and the secret are sent as symbols with at most two pads
behind them, which stand for the user, a colon and the secret. A receiver who takes the first colon
for the one between them reads just these two when the user has no colon, and only then; so what is
sent for two pairs whose users have none is the same just when the pairs are. -/
theorem credentials_read_back :
    (∀ user secret,
      (∃ symbols pads, (basicCredentials user secret).toList =
          symbols ++ List.replicate pads '=' ∧ pads ≤ 2 ∧
          ∀ c ∈ symbols, Base64.isSymbol c = true) ∧
        credentialsText? (basicCredentials user secret) = some (user ++ ":" ++ secret) ∧
        (readCredentials (basicCredentials user secret) = some (user, secret) ↔
          ':' ∉ user.toList)) ∧
    ∀ user secret user' secret', ':' ∉ user.toList → ':' ∉ user'.toList →
      (basicCredentials user secret = basicCredentials user' secret' ↔
        user = user' ∧ secret = secret') := by
  constructor
  · intro user secret
    refine ⟨?_, credentialsText?_basicCredentials user secret, readCredentials_eq_iff⟩
    rw [basicCredentials, String.toList_ofList]
    exact (Base64.isEncodedText_encode _).exists_pads
  · intro user secret user' secret' huser huser'
    constructor
    · intro hsame
      have hread : readCredentials (basicCredentials user secret) = some (user', secret') := by
        rw [hsame]
        exact readCredentials_eq_iff.mpr huser'
      rw [readCredentials_eq_iff.mpr huser] at hread
      exact Prod.mk.inj (Option.some.inj hread)
    · rintro ⟨rfl, rfl⟩
      rfl

/-- A secret may have colons, and both may have characters of several bytes. The colon in a user is
taken for the one behind it, and without one the credentials of two users differ. -/
theorem colons_in_secrets_read_back :
    readCredentials (basicCredentials "jürgen" "a:ß") = some ("jürgen", "a:ß") ∧
      readCredentials (basicCredentials "a:b" "c") ≠ some ("a:b", "c") ∧
      basicCredentials "a:b" "c" = basicCredentials "a" "b:c" ∧
      ':' ∉ "a".toList ∧ ':' ∉ "ab".toList ∧
      basicCredentials "a" "b:c" ≠ basicCredentials "ab" ":c" := by
  obtain ⟨hread, hsame⟩ := credentials_read_back
  refine ⟨(hread "jürgen" "a:ß").2.2.mpr (by decide), ?_, rfl, by decide, by decide, ?_⟩
  · rw [ne_eq, (hread "a:b" "c").2.2]
    decide
  · rw [ne_eq, hsame "a" "b:c" "ab" ":c" (by decide) (by decide)]
    decide

end RequestAuth
