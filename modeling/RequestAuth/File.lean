import RequestAuth.Fault

/-!
# Files

What there is under a file's name, and the text of it. A file holds UTF-8.
-/

namespace RequestAuth

/-- What there is under a name. -/
inductive FileState where
  /-- Nothing. -/
  | missing
  /-- A directory. -/
  | directory
  /-- A file with some bytes. -/
  | content (bytes : List UInt8)

/-- What is wrong with a name that no file can have: a null character in it, or a part of more than
255 bytes. -/
def nameFault? (name : String) : Option ReadFault :=
  if name.toList.contains '\x00' then some .badValue
  else if (name.splitOn "/").any fun part => 255 < part.utf8ByteSize then some .nameTooLong
  else none

/-- The bytes of a file. -/
def FileState.bytes : FileState → Except ReadFault (List UInt8)
  | .missing => .error .missing
  | .directory => .error .directory
  | .content bytes => .ok bytes

/-- The text that bytes are in UTF-8. -/
def decoded (bytes : List UInt8) : Except ReadFault String :=
  match String.fromUTF8? ⟨bytes.toArray⟩ with
  | some s => .ok s
  | none => .error .undecodable

end RequestAuth
