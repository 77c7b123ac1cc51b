import Vetting.Schema.Basic

/-!
# Compiled schemas and their reports

Compiling a schema resolves every rule of every field, so that nothing can go wrong any more when
values are validated.  A report names each failing field with one message.

## Main definitions

* `Registry.compile`: the compiled schema, or the first error among the fields in order
* `CompiledSchema.validate`: the report on a value
-/

namespace Vetting

/-- Which of a field's failures is reported. -/
inductive Aggregation where
  | lastFailure
  | firstFailure
  deriving DecidableEq, Repr

/-- The verdict on one field, with the message of a failure. -/
structure FieldReport where
  isValid : Bool
  error : Option String
  deriving DecidableEq, Repr

def FieldReport.ofError (error : Option String) : FieldReport := ⟨error.isNone, error⟩

/-- The verdict on an object, with the message of each failing field. -/
structure Report where
  isValid : Bool
  errors : Dict String

namespace Report

/-- The report in which nothing has failed yet. -/
def passed : Report := ⟨true, .empty⟩

/-- The report with the failure of a field entered. -/
def fail (r : Report) (field message : String) : Report :=
  ⟨false, r.errors.insert field message⟩

end Report

/-- A field's validators. -/
structure CompiledField where
  validators : List Validator
  aggregation : Aggregation

namespace CompiledField

/-- The first failure among validators. -/
def firstError : List Validator → Value → Option String
  | [], _ => none
  | v :: rest, x => (v.validate x).error?.orElse fun _ => firstError rest x

/-- The last failure among validators, given the last one before them. -/
def lastError : Option String → List Validator → Value → Option String
  | found, [], _ => found
  | found, v :: rest, x => lastError ((v.validate x).error?.orElse fun _ => found) rest x

def validate (f : CompiledField) (x : Value) : FieldReport :=
  match f.aggregation with
  | .firstFailure => .ofError (firstError f.validators x)
  | .lastFailure => .ofError (lastError none f.validators x)

end CompiledField

/-- The fields that have rules, in order of declaration. -/
structure CompiledSchema where
  fields : List (String × CompiledField)

namespace CompiledSchema

def field? (s : CompiledSchema) (name : String) : Option CompiledField := s.fields.lookup name

def size (s : CompiledSchema) : Nat := s.fields.length

def isEmpty (s : CompiledSchema) : Bool := s.fields.isEmpty

/-- Enters the failures of fields into a report. -/
def collect (x : Value) : List (String × CompiledField) → Report → Report
  | [], report => report
  | (name, field) :: rest, report =>
    match (field.validate (x.get name)).error with
    | some message => collect x rest (report.fail name message)
    | none => collect x rest report

/-- The report on a value.  A field it lacks, and every field of a value that is no object, is
validated as undefined. -/
def validate (s : CompiledSchema) (x : Value) : Report := collect x s.fields .passed

end CompiledSchema

namespace Registry

/-- Resolves rules one by one up to the first error. -/
def resolveAll (r : Registry) : List Rule → Except SetupError (List Validator)
  | [] => .ok []
  | rule :: rest => do
    let v ← r.resolve rule
    return v :: (← r.resolveAll rest)

/-- The compiled field of a descriptor, none if it has no rule list. -/
def compileField (r : Registry) (descriptor : FieldDescriptor) (aggregation : Aggregation) :
    Except SetupError (Option CompiledField) :=
  match descriptor.rules with
  | none => .ok none
  | some rules => (r.resolveAll rules).map fun validators => some ⟨validators, aggregation⟩

/-- Compiles fields one by one up to the first error, and leaves out those without rules. -/
def compileFields (r : Registry) (aggregation : Aggregation) :
    List (String × FieldDescriptor) → Except SetupError (List (String × CompiledField))
  | [] => .ok []
  | (name, descriptor) :: rest => do
    let field ← r.compileField descriptor aggregation
    let fields ← r.compileFields aggregation rest
    match field with
    | some f => return (name, f) :: fields
    | none => return fields

/-- The compiled schema. -/
def compile (r : Registry) (schema : Schema) (aggregation : Aggregation) :
    Except SetupError CompiledSchema :=
  (r.compileFields aggregation schema.fields).map fun fields => ⟨fields⟩

end Registry

end Vetting
