import RequestAuth.Value.Access
import RequestAuth.Text.Digit

/-!
# Tokens

What a token endpoint hands out: the access token, its type, and the seconds for which it may be
used. `Token.read` takes them from the value that the endpoint answers with.
-/

namespace RequestAuth

/-- A token as it is handed out. -/
structure Token where
  /-- The access token. -/
  access : Value
  /-- Its type. -/
  type : Value
  /-- The seconds for which it may be used, if they are limited. -/
  lifetime : Option Int
  /-- The whole answer. -/
  answer : Value

/-- The integer next to a double toward zero, for a finite one. -/
def truncated (x : Float) : Int :=
  let (p, q) := Decimal.ratioOf x.toBits
  if Nat.pow 2 63 ≤ x.toBits.toNat then -((p / q : Nat) : Int) else ((p / q : Nat) : Int)

/-- An answer that is no token, for a reason. -/
def invalidAnswer (reason : String) (status : Option Int) : Fault :=
  .refused ⟨.text "invalid_response", .text reason, .null, status⟩

/-- A number of seconds: an integer, a double cut off, or a text that spells an integer. An infinite
double is out of range; anything else is refused. -/
def readSeconds (v : Value) : Except Fault Int :=
  let refusal := invalidAnswer ("Invalid expires_in: " ++ v.shown) none
  match v with
  | .bool b => .ok (if b then 1 else 0)
  | .int n => .ok n
  | .float x =>
    if x.isInf then .error (.outOfRange "cannot convert float infinity to integer")
    else .ok (truncated x)
  | .text s =>
    match Text.readInt? 10 s.toList with
    | some n => .ok n
    | none => .error refusal
  | _ => .error refusal

/-- The token that a value describes. -/
def Token.read (answer : Value) : Except Fault Token := do
  let access ← answer.member "access_token"
  if !access.isTrue then
    throw (invalidAnswer "Token endpoint response has no access_token" none)
  let lifetime ← match ← answer.member "expires_in" with
    | .null => pure none
    | v => (readSeconds v).map some
  return ⟨access, ← answer.memberOr "token_type" (.text "Bearer"), lifetime, answer⟩

end RequestAuth
