import Vetting.Json.Reader
import Vetting.Json.Writer
import Vetting.Schema.Compiled
import Vetting.Yaml.Reader

/-!
# Checking documents

The command that validates documents against a schema.  It is a function of the contents of files:
nothing is written until every document has been validated, so the answer is either an output with
an exit code or the first error.

Errors come in this order: the schema file (its type, its contents, its text), the shape of the
schema, its rules, and then the documents one after the other, each like the schema file.
-/

namespace Vetting

namespace Command

/-- How the reports are written. -/
inductive OutputFormat where
  /-- A line for each document and one for each of its failing fields. -/
  | text
  /-- An array with an object for each document. -/
  | json
  deriving DecidableEq, Repr

structure CheckRequest where
  schema : String
  documents : List String
  aggregation : Aggregation
  format : OutputFormat

/-- What a command ends with. -/
structure Answer where
  code : Nat
  output : String
  deriving DecidableEq, Repr

/-- All documents passed. -/
def validCode : Nat := 0

/-- Some document failed. -/
def invalidCode : Nat := 2

/-- What a file is written in. -/
inductive FileFormat where
  | json
  | yaml
  deriving DecidableEq, Repr

inductive CheckError where
  | unsupported (path : String)
  | unreadable (path : String)
  | malformed (path : String) (format : FileFormat)
  | badSchema (path : String) (cause : ConfigError)
  | badRules (path : String) (cause : SetupError)

/-- The words for what lies outside the program's own knowledge. -/
structure Words where
  pattern : Regex.Fault → String
  io : String
  json : String
  yaml : String

/-- The messages of an error, the outermost first. -/
def CheckError.chain (words : Words) : CheckError → List String
  | .unsupported path =>
    ["unsupported file type for " ++ path ++ ": expected .json, .yaml or .yml"]
  | .unreadable path => ["failed to read " ++ path, words.io]
  | .malformed path .json => ["failed to parse JSON in " ++ path, words.json]
  | .malformed path .yaml => ["failed to parse YAML in " ++ path, words.yaml]
  | .badSchema path cause => ["invalid schema in " ++ path, cause.message words.pattern]
  | .badRules path cause =>
    let outer := ["failed to compile schema " ++ path, cause.message words.pattern]
    match cause with
    | .notFound _ => outer
    | .config inner => outer ++ [inner.message words.pattern]

/-! ## Files -/

/-- The parts of a text between the occurrences of a character. -/
def partsAt (separator : Char) (text : String) : List String :=
  (text.toList.splitOn separator).map String.ofList

/-- The name a path ends with, none if it ends with `..` or names nothing. -/
def fileName? (path : String) : Option String :=
  match ((partsAt '/' path).filter fun part => part ≠ "" ∧ part ≠ ".").getLast? with
  | some name => if name = ".." then none else some name
  | none => none

/-- What follows the last dot of a file name, if something stands before the dot. -/
def extension? (path : String) : Option String :=
  match fileName? path with
  | none => none
  | some name =>
    match (partsAt '.' name).reverse with
    | last :: before :: more => if before = "" ∧ more = [] then none else some last
    | _ => none

/-- The format of a file, told by its extension. -/
def formatOf? (path : String) : Option FileFormat :=
  match extension? path with
  | some "json" => some .json
  | some "yaml" | some "yml" => some .yaml
  | _ => none

/-- The contents of a file as JSON.  `files` gives the texts of the files that can be read. -/
def load (files : String → Option String) (path : String) : Except CheckError Json :=
  match formatOf? path with
  | none => .error (.unsupported path)
  | some format =>
    match files path with
    | none => .error (.unreadable path)
    | some text =>
      let read := match format with
        | .json => Json.read? text
        | .yaml => Yaml.read? text
      match read with
      | none => .error (.malformed path format)
      | some j => .ok j

/-- The schema in a file, compiled. -/
def loadSchema (registry : Registry) (files : String → Option String) (path : String)
    (aggregation : Aggregation) : Except CheckError CompiledSchema := do
  let j ← load files path
  let schema ← (Schema.ofJson j).mapError (.badSchema path)
  (registry.compile schema aggregation).mapError (.badRules path)

/-- The reports on documents, one by one up to the first that cannot be loaded. -/
def reports (schema : CompiledSchema) (files : String → Option String) :
    List String → Except CheckError (List (String × Report))
  | [] => .ok []
  | path :: rest => do
    let j ← load files path
    let report := schema.validate (.ofJson j)
    return (path, report) :: (← reports schema files rest)

/-! ## Output -/

def textReport (document : String × Report) : String :=
  if document.2.isValid then document.1 ++ ": ok\n"
  else
    document.1 ++ ": invalid\n" ++
      String.join (document.2.errors.entries.map fun (field, message) =>
        "  " ++ field ++ ": " ++ message ++ "\n")

def jsonReport (document : String × Report) : Json :=
  .object [
    ("document", .text document.1),
    ("valid", .bool document.2.isValid),
    ("errors", .object (document.2.errors.entries.map fun (field, message) =>
      (field, .text message)))]

/-- The text of all reports. -/
def render (format : OutputFormat) (documents : List (String × Report)) : String :=
  match format with
  | .text => String.join (documents.map textReport)
  | .json => (Json.array (documents.map jsonReport)).pretty ++ "\n"

/-- Validates documents against a schema. -/
def check (registry : Registry) (files : String → Option String) (request : CheckRequest) :
    Except CheckError Answer := do
  let schema ← loadSchema registry files request.schema request.aggregation
  let documents ← reports schema files request.documents
  let code := if documents.all fun document => document.2.isValid then validCode else invalidCode
  return ⟨code, render request.format documents⟩

/-- Lists the names of a registry, one on each line. -/
def validators (registry : Registry) : Answer :=
  ⟨validCode, String.join (registry.names.map fun name => name ++ "\n")⟩

end Command

end Vetting
