import Vetting.Command.Check

/-!
# The arguments of the commands

`check --schema FILE [--first-failure] [--format text|json] DOCUMENT...` validates documents, and
`validators` lists the names that rules may use.  The value of an option is the next argument or
stands behind an equals sign; behind `--` all arguments are documents.
-/

namespace Vetting

namespace Command

/-- A command with its arguments. -/
inductive Invocation where
  | check (request : CheckRequest)
  | validators

/-- Why arguments are refused. -/
inductive UsageError where
  | noCommand
  | unknownCommand (name : String)
  | unknownOption (name : String)
  | missingValue (name : String)
  | repeated (name : String)
  | unknownFormat (name : String)
  | noSchema
  | noDocuments
  | unexpected (argument : String)
  deriving DecidableEq, Repr

def UsageError.message : UsageError → String
  | .noCommand => "a command is required: check or validators"
  | .unknownCommand name => "unknown command " ++ name
  | .unknownOption name => "unknown option " ++ name
  | .missingValue name => "option " ++ name ++ " needs a value"
  | .repeated name => "option " ++ name ++ " is given twice"
  | .unknownFormat name => "unknown format " ++ name ++ ": expected text or json"
  | .noSchema => "option --schema is required"
  | .noDocuments => "at least one document is required"
  | .unexpected argument => "unexpected argument " ++ argument

/-- What the arguments of `check` have said so far. -/
structure CheckArguments where
  schema : Option String
  firstFailure : Bool
  format : Option OutputFormat
  /-- The documents, the last first. -/
  documents : List String

namespace CheckArguments

def none : CheckArguments := ⟨.none, false, .none, []⟩

def formatOf? (name : String) : Option OutputFormat :=
  if name = "text" then some .text else if name = "json" then some .json else .none

def withSchema (a : CheckArguments) (path : String) : Except UsageError CheckArguments :=
  if a.schema.isSome then .error (.repeated "--schema") else .ok { a with schema := some path }

def withFormat (a : CheckArguments) (name : String) : Except UsageError CheckArguments :=
  match a.format, formatOf? name with
  | some _, _ => .error (.repeated "--format")
  | .none, .none => .error (.unknownFormat name)
  | .none, some format => .ok { a with format := some format }

def withDocuments (a : CheckArguments) (paths : List String) : CheckArguments :=
  { a with documents := paths.reverse ++ a.documents }

/-- Splits an option at its equals sign. -/
def splitOption (argument : String) : String × Option String :=
  let cs := argument.toList
  let name := cs.takeWhile (· ≠ '=')
  (String.ofList name,
    if name.length < cs.length then some (String.ofList (cs.drop (name.length + 1))) else .none)

/-- Reads the arguments one after the other. -/
def read (a : CheckArguments) : List String → Except UsageError CheckArguments
  | [] => .ok a
  | argument :: rest =>
    if argument = "--" then .ok (a.withDocuments rest)
    else if argument.startsWith "-" && argument ≠ "-" then
      match splitOption argument, rest with
      | ("--first-failure", .none), rest =>
        if a.firstFailure then .error (.repeated "--first-failure")
        else read { a with firstFailure := true } rest
      | ("--schema", some path), rest => (a.withSchema path).bind fun a => read a rest
      | ("--schema", .none), path :: rest => (a.withSchema path).bind fun a => read a rest
      | ("--schema", .none), [] => .error (.missingValue "--schema")
      | ("--format", some name), rest => (a.withFormat name).bind fun a => read a rest
      | ("--format", .none), name :: rest => (a.withFormat name).bind fun a => read a rest
      | ("--format", .none), [] => .error (.missingValue "--format")
      | (name, _), _ => .error (.unknownOption name)
    else read (a.withDocuments [argument]) rest

/-- The request, for which a schema and a document are required. -/
def request (a : CheckArguments) : Except UsageError CheckRequest :=
  match a.schema, a.documents with
  | .none, _ => .error .noSchema
  | some _, [] => .error .noDocuments
  | some schema, documents => .ok {
      schema
      documents := documents.reverse
      aggregation := if a.firstFailure then .firstFailure else .lastFailure
      format := a.format.getD .text }

end CheckArguments

/-- The command that arguments spell out. -/
def Invocation.ofArguments : List String → Except UsageError Invocation
  | [] => .error .noCommand
  | "check" :: rest => do return .check (← (← CheckArguments.none.read rest).request)
  | "validators" :: rest =>
    match rest with
    | [] => .ok .validators
    | argument :: _ => .error (.unexpected argument)
  | name :: _ => .error (.unknownCommand name)

/-- The files that a command reads. -/
def Invocation.files : Invocation → List String
  | .check request => request.schema :: request.documents
  | .validators => []

/-- What a command answers, given the contents of its files. -/
def Invocation.answer (registry : Registry) (files : String → Option String) :
    Invocation → Except CheckError Answer
  | .check request => Command.check registry files request
  | .validators => .ok (Command.validators registry)

end Command

end Vetting
