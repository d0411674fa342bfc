import RequestAuth.Request
import RequestAuth.Url

/-!
# Credentials

What authentication adds to a request: headers, pairs for the query and cookies. Credentials of
several schemes are merged, and then stamped onto the request at once: first the headers, then the
cookies behind those that are there, then the query behind the one that is there.

A header whose name is no text and an address that cannot be split are faults. What was stamped
before the fault stays on the request.

What is *not* formalized: the name of a header as a byte string, which a description of a service
in YAML can give for the name of a key. Names of headers are texts here, as they are declared to be,
and a byte string counts as no name at all, although a request would take it.
-/

namespace RequestAuth

/-- Credentials for a request. -/
structure Credential where
  /-- The headers to set, in order. -/
  headers : List (Value × String)
  /-- The encoded pairs for the query. -/
  query : List String
  /-- The encoded pairs for the cookies. -/
  cookies : List String

namespace Credential

/-- No credentials. -/
def empty : Credential := ⟨[], [], []⟩

/-- Whether there is nothing to add. -/
def isEmpty (c : Credential) : Bool := c.headers.isEmpty && c.query.isEmpty && c.cookies.isEmpty

/-- One credential behind the other. -/
def merge (c d : Credential) : Credential :=
  ⟨c.headers ++ d.headers, c.query ++ d.query, c.cookies ++ d.cookies⟩

/-- Set headers on a request. -/
def stampHeaders : List (Value × String) → Request → Except Fault Unit × Request
  | [], r => (.ok (), r)
  | (.text name, value) :: rest, r => stampHeaders rest (r.withHeader name value)
  | _ :: _, r => (.error .memberMissing, r)

/-- The value of the cookie header with some cookies behind the old value. -/
def cookieValue (old : Option String) (cookies : List String) : String :=
  let added := String.intercalate "; " cookies
  match old.filter (!·.isEmpty) with
  | some old => old ++ "; " ++ added
  | none => added

/-- Add cookies to a request. -/
def stampCookies (cookies : List String) (r : Request) : Request :=
  if cookies.isEmpty then r
  else r.withHeader "Cookie" (cookieValue (r.header? "Cookie") cookies)

/-- Add pairs to the query of a request. -/
def stampQuery (query : List String) (r : Request) : Except Fault Unit × Request :=
  if query.isEmpty then (.ok (), r)
  else
    match appendQuery r.url (String.intercalate "&" query) with
    | .ok url => (.ok (), { r with url })
    | .error fault => (.error fault, r)

/-- Add credentials to a request. -/
def stamp (c : Credential) (r : Request) : Except Fault Unit × Request :=
  match stampHeaders c.headers r with
  | (.error fault, r) => (.error fault, r)
  | (.ok (), r) => stampQuery c.query (stampCookies c.cookies r)

end Credential

end RequestAuth
