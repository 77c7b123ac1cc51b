import Vetting.Schema.Compiled

/-!
# A registry in use

A session holds the registry that is in use, the clones of it that have been saved and the schemas
that have been compiled, and goes on step by step.  A step that is refused is answered with the
error, and the session goes on from where it was.

## Main definitions

* `Session.Step`: what can be done with a registry
* `Session.perform`: the answer to a step and the session after it
* `Session.run`: the session after a list of steps
-/

namespace Vetting

/-- The registry in use, its saved clones and the schemas compiled with it, by slots. -/
structure Session where
  registry : Registry
  saved : Dict Registry
  compiled : Dict CompiledSchema

namespace Session

/-- What a session starts from. -/
inductive Base where
  | empty
  | builtins
  deriving DecidableEq, Repr

def Base.registry [Regex.Engine] : Base → Registry
  | .empty => .empty
  | .builtins => .builtins

def start [Regex.Engine] (base : Base) : Session := ⟨base.registry, .empty, .empty⟩

inductive Step where
  | define (name : String) (factory : Factory)
  | defineCustom (name message : String) (test : Value → Bool)
  | create (name : String) (options : Options)
  | resolve (rule : Rule)
  | compileField (descriptor : FieldDescriptor) (aggregation : Aggregation)
  /-- Compiles a schema and keeps it in a slot. -/
  | compile (slot : String) (schema : Schema) (aggregation : Aggregation)
  /-- Puts a clone of the registry into a slot. -/
  | save (slot : String)
  /-- Replaces the registry by the clone in a slot; without one nothing happens. -/
  | restore (slot : String)

/-- What a step comes back with. -/
inductive Answer where
  | done
  | refused (e : SetupError)
  | validator (v : Validator)
  | field (f : Option CompiledField)
  | schema (s : CompiledSchema)

def Answer.ofExcept {α : Type} (f : α → Answer) : Except SetupError α → Answer
  | .ok a => f a
  | .error e => .refused e

/-- One step: its answer and the session after it. -/
def perform (s : Session) : Step → Answer × Session
  | .define name factory => (.done, { s with registry := s.registry.define name factory })
  | .defineCustom name message test =>
    (.done, { s with registry := s.registry.defineCustom name message test })
  | .create name options => (.ofExcept .validator (s.registry.create name options), s)
  | .resolve rule => (.ofExcept .validator (s.registry.resolve rule), s)
  | .compileField descriptor aggregation =>
    (.ofExcept .field (s.registry.compileField descriptor aggregation), s)
  | .compile slot schema aggregation =>
    match s.registry.compile schema aggregation with
    | .error e => (.refused e, s)
    | .ok c => (.schema c, { s with compiled := s.compiled.insert slot c })
  | .save slot => (.done, { s with saved := s.saved.insert slot s.registry })
  | .restore slot => (.done, { s with registry := (s.saved.find? slot).getD s.registry })

/-- The session after a step. -/
def after (s : Session) (step : Step) : Session := (s.perform step).2

/-- The session after steps. -/
def run (s : Session) (steps : List Step) : Session := steps.foldl after s

/-- The report of the schema in a slot. -/
def report? (s : Session) (slot : String) (x : Value) : Option Report :=
  (s.compiled.find? slot).map fun c => c.validate x

end Session

end Vetting
