import Vetting.Command.Arguments
import Vetting.Regex.Size

/-!
# The program

Reads the files of a command, writes what the command answers and ends with its exit code.  Errors
go to the standard error stream, an error of the arguments with code 2 and any other with code 1.
-/

namespace Vetting

namespace Program

def words : Command.Words where
  pattern := Regex.Fault.message
  io := "the file cannot be read as text"
  json := "the text is not valid JSON"
  yaml := "the text is not a valid YAML document"

/-- The contents of the files that can be read. -/
def contents (paths : List String) : IO (List (String × String)) := do
  let mut found := []
  for path in paths do
    try
      found := (path, ← IO.FS.readFile path) :: found
    catch _ => pure ()
  return found

def run (arguments : List String) : IO UInt32 := do
  match Command.Invocation.ofArguments arguments with
  | .error e =>
    IO.eprintln ("error: " ++ e.message)
    return 2
  | .ok invocation =>
    let files ← contents invocation.files
    match invocation.answer (@Registry.builtins .standard) fun path => files.lookup path with
    | .error e =>
      IO.eprintln ("error: " ++ ": ".intercalate (e.chain words))
      return 1
    | .ok answer =>
      IO.print answer.output
      return answer.code.toUInt32

end Program

end Vetting

def main (arguments : List String) : IO UInt32 := Vetting.Program.run arguments
