import RequestAuth.Fault
import RequestAuth.Path.Template
import RequestAuth.Text.Case

/-!
# Security requirements

An operation is a declared path with a method. It lists alternatives, each a mapping from the names
of schemes to scopes: all schemes of one alternative together give access. Operations without a list
of their own have the default list of the document.

`Table.matchPath` finds the declared path that the path of a request is an instance of, and
`Table.resolve` the alternatives of an operation.
-/

namespace RequestAuth

/-- One alternative: the names of schemes, each with its scopes, in the order of the document. -/
abbrev Requirement := List (Value × List Value)

/-- A declared path with a method in capitals. -/
structure Operation where
  /-- The declared path. -/
  path : String
  /-- The method. -/
  method : String
  deriving DecidableEq

/-- The alternatives of operations. No operation is listed twice. -/
structure Table where
  /-- The operations with a list of their own. -/
  operations : List (Operation × List Requirement)
  /-- The alternatives of all other operations. -/
  default : List Requirement

namespace Table

/-- The alternatives that an operation lists itself. The method may be in any case. -/
def get? (t : Table) (path method : String) : Option (List Requirement) :=
  t.operations.lookup ⟨path, upperText method⟩

/-- Whether a path is declared with a method in capitals, or with any if none is given. -/
def declares (t : Table) (method : Option String) (path : String) : Bool :=
  match method with
  | none => true
  | some m => t.operations.any fun o => o.1 == ⟨path, m⟩

/-- The declared paths in the order in which they are tried. -/
def paths (t : Table) : List String := Path.ranked (t.operations.map fun o => o.1.path)

/-- A method in capitals; an empty one counts as none. -/
def givenMethod (method : Option String) : Option String :=
  (method.filter (!·.isEmpty)).map upperText

/-- The first declared path that a path is an instance of, among those declared with the method; an
empty method counts as none. -/
def matchPath (t : Table) (path : String) (method : Option String) : Option String :=
  let method := givenMethod method
  t.paths.find? fun p => t.declares method p && Path.isInstance p path

/-- The alternatives of an operation: its own, even if there are none, or else the default. -/
def resolve (t : Table) (path method : Option String) : Except Fault (List Requirement) :=
  let path := path.getD ""
  let method := method.getD ""
  if path.isEmpty then .error .pathEmpty
  else if method.isEmpty then .error .methodEmpty
  else .ok ((t.get? path method).getD t.default)

/-! ### Operations without a path or a method

A missing path is declared nowhere, but it cannot be held against a declared path; a missing method
cannot be put in capitals. -/

/-- The alternatives that an operation lists itself, if it is one. -/
def ownOf (t : Table) (path method : Option String) : Except Fault (Option (List Requirement)) :=
  match path, method with
  | _, none => .error .memberMissing
  | none, some _ => .ok none
  | some p, some m => .ok (t.get? p m)

/-- The declared path that a path, if there is one, is an instance of. -/
def declaredOf (t : Table) (path method : Option String) : Except Fault (Option String) :=
  match path with
  | some p => .ok (t.matchPath p method)
  | none => if t.paths.any (t.declares (givenMethod method)) then .error .typeMismatch else .ok none

end Table

end RequestAuth
