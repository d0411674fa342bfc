import RequestAuth.CommandLine.Describe

/-!
# The command

`describe FILE --path PATH [--method METHOD]` prints the security alternatives of an operation. It
ends with 0, with 1 when the file or the operation makes no sense, and with 2 when the arguments do
not.
-/

namespace RequestAuth.CommandLine

/-- What there is under the name of a file. -/
def fileState (name : String) : IO FileState := do
  try
    return .content (← IO.FS.readBinFile name).toList
  catch
    | .noFileOrDirectory .. => return .missing
    | _ => return .directory

/-- How the command is used. -/
def usage : String := "usage: [-h] [-v] describe FILE --path PATH [--method METHOD]"

/-- Print what a command ends with. -/
def report (ending : Ending) : IO Unit :=
  match ending with
  | .text s => IO.print s
  | .failure fault => IO.eprintln ("Error: " ++ fault.message)
  | .help => IO.println usage
  | .misuse => IO.eprintln usage

/-- The file that arguments name, if they name one. -/
def fileOf (args : List String) : Option String :=
  match readArguments args with
  | .ok (.describe file _ _) => some file
  | _ => none

end RequestAuth.CommandLine

open RequestAuth RequestAuth.CommandLine in
/-- Run the command. -/
def main (args : List String) : IO UInt32 := do
  let file ← match fileOf args with
    | some name => fileState name
    | none => pure .missing
  match answer args fun _ => file with
  | .ok ending =>
    report ending
    return ending.code
  | .error fault =>
    IO.eprintln ("Error: " ++ fault.message)
    return 1
