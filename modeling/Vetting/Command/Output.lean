import Vetting.Command.Check

/-!
# Checking documents, writing as it goes

The same command as `Command.check` in the order in which things happen.  A `Writing` has an output
that it adds to, and may stop with an error at any point; what has been written by then stays
written.  Documents are loaded and validated one after the other, and then their reports are written
piece by piece.
-/

namespace Vetting

namespace Command

/-- A command with its output so far. -/
abbrev Writing (α : Type) : Type := ExceptT CheckError (StateM String) α

namespace Writing

variable {α : Type}

def write (text : String) : Writing Unit := fun written => (.ok (), written ++ text)

/-- A step that writes nothing. -/
def ofExcept (result : Except CheckError α) : Writing α := fun written => (result, written)

end Writing

/-- Loads documents and validates them, one by one. -/
def gather (schema : CompiledSchema) (files : String → Option String) :
    List String → Writing (List (String × Report))
  | [] => return []
  | path :: rest => do
    let j ← Writing.ofExcept (load files path)
    let report := schema.validate (.ofJson j)
    return (path, report) :: (← gather schema files rest)

/-- A line for each failing field. -/
def writeErrors : List (String × String) → Writing Unit
  | [] => return ()
  | (field, message) :: rest => do
    Writing.write ("  " ++ field ++ ": " ++ message ++ "\n")
    writeErrors rest

def writeText : List (String × Report) → Writing Unit
  | [] => return ()
  | (document, report) :: rest => do
    if report.isValid then
      Writing.write (document ++ ": ok\n")
    else
      Writing.write (document ++ ": invalid\n")
      writeErrors report.errors.entries
    writeText rest

def writeJson (documents : List (String × Report)) : Writing Unit := do
  Writing.write (Json.array (documents.map jsonReport)).pretty
  Writing.write "\n"

def writeReports : OutputFormat → List (String × Report) → Writing Unit
  | .text => writeText
  | .json => writeJson

/-- Validates documents against a schema, writes the reports and ends with the exit code. -/
def checkTo (registry : Registry) (files : String → Option String) (request : CheckRequest) :
    Writing Nat := do
  let schema ← Writing.ofExcept (loadSchema registry files request.schema request.aggregation)
  let documents ← gather schema files request.documents
  writeReports request.format documents
  return if documents.all fun document => document.2.isValid then validCode else invalidCode

end Command

end Vetting
