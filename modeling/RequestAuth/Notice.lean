import RequestAuth.Value.Text

/-!
# Notices

What is reported beside a result: warnings, which do not end an operation, and errors of work that
nobody waits for. A notice is a level and what it says, part by part.

The parts are values, which are written when the notice is shown and not when it is given. So a part
that cannot be written is no fault of what gives the notice; whoever shows it passes over it.
-/

namespace RequestAuth

/-- How grave a notice is. -/
inductive Notice.Level where
  /-- Something is left out or cannot be done. -/
  | warning
  /-- Something has failed. -/
  | error
  deriving DecidableEq

/-- A report beside a result. -/
structure Notice where
  /-- How grave it is. -/
  level : Notice.Level
  /-- What it says: the texts of the parts, one behind the other. -/
  parts : List Value

/-- A warning. -/
def Notice.warn (parts : List Value) : Notice := ⟨.warning, parts⟩

/-- The level and the text of a notice. -/
def Notice.toText (n : Notice) : String :=
  let text := String.join (n.parts.map Value.toText)
  match n.level with
  | .warning => "WARNING: " ++ text
  | .error => "ERROR: " ++ text

end RequestAuth
