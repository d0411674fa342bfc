import RequestAuth.Text.Case

/-!
# Outbound requests

The part of a request that authentication reads and changes: its address, method and headers, and
how many hooks wait for its response. The case of a header's name does not matter, but is kept; a
header that is set again keeps its place and takes the new spelling.

What is *not* formalized: headers whose name or value is a byte string. A request may have them, but
the authentication makes none from what it is given as text; the body of a request and all else that
it carries are left as they are.
-/

namespace RequestAuth

/-- An outbound request. -/
structure Request where
  /-- The address. -/
  url : String
  /-- The method. -/
  method : Option String
  /-- The headers in order. -/
  headers : List (String × String)
  /-- The hooks that wait for the response. -/
  hooks : Nat
  deriving DecidableEq

/-- Whether two names are those of one header. -/
def sameHeader (a b : String) : Bool := lowerText a == lowerText b

/-- The headers with one of them set: in its old place if it is there, at the end otherwise. -/
def setHeader (name value : String) : List (String × String) → List (String × String)
  | [] => [(name, value)]
  | h :: rest =>
    if sameHeader h.1 name then (name, value) :: rest else h :: setHeader name value rest

/-- The headers that a list sets one after the other. -/
def ofHeaders (headers : List (String × String)) : List (String × String) :=
  headers.foldl (fun hs h => setHeader h.1 h.2 hs) []

namespace Request

/-- The value of a header. -/
def header? (r : Request) (name : String) : Option String :=
  (r.headers.find? fun h => sameHeader h.1 name).map Prod.snd

/-- The request with a header set. -/
def withHeader (r : Request) (name value : String) : Request :=
  { r with headers := setHeader name value r.headers }

/-- The request with one more hook. -/
def withHook (r : Request) : Request := { r with hooks := r.hooks + 1 }

end Request

end RequestAuth
