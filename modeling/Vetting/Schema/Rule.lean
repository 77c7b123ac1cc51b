import Vetting.Registry

/-!
# Rules

A rule names a validator and its options, in one of several shapes, or is a predicate itself.
-/

namespace Vetting

/-- One entry of a field's rule list. -/
inductive Rule where
  | inline (predicate : Value → Outcome)
  /-- A name with default options. -/
  | name (name : String)
  /-- A name, and options if there is a second item. -/
  | list (items : List Value)
  /-- Options with the name among them, under `name`. -/
  | map (options : Options)

/-- The validator that a rule asks for. -/
structure Request where
  name : String
  options : Options

namespace Rule

/-- The option under which a map holds the name. -/
def nameKey : String := "name"

/-- The map of a name and options; a name among the options is overwritten. -/
def withOptions (n : String) (options : Options) : Rule := .map (options.insert nameKey (.text n))

def ofObject (o : Object) : Rule := .map (.ofObject o)

/-- A text is a name, an array a list and an object a map. -/
def ofJson (j : Json) : Except ConfigError Rule :=
  match j with
  | .text n => .ok (.name n)
  | .array items => .ok (.list (items.map Value.ofJson))
  | .object _ => (Options.ofJson j).map .map
  | other => .error (.invalidRule (.shape other))

/-- The name a value gives, which must be a text and not empty. -/
def nameOf (v : Option Value) : Except ConfigError String :=
  match v with
  | some (.text n) => if n.isEmpty then .error .missingName else .ok n
  | _ => .error .missingName

/-- The options that follow a name in a list of `size` items. -/
def listOptions (n : String) (size : Nat) : List Value → Except ConfigError Options
  | [] => .ok .empty
  | [v] =>
    match v.asObject? with
    | some o => .ok (.ofObject o)
    | none => .error (.invalidRule (.listOptions n v))
  | _ => .error (.invalidRule (.listSize n size))

/-- The validator a rule asks for; a predicate asks for none. -/
def request? : Rule → Except ConfigError (Option Request)
  | .inline _ => .ok none
  | .name n => (nameOf (some (.text n))).map fun n => some ⟨n, .empty⟩
  | .list items => do
    let n ← nameOf items.head?
    let options ← listOptions n items.length items.tail
    return some ⟨n, options⟩
  | .map options => do
    let n ← nameOf (options.find? nameKey)
    return some ⟨n, options.erase nameKey⟩

end Rule

/-- The validator of a rule. -/
def Registry.resolve (r : Registry) (rule : Rule) : Except SetupError Validator :=
  match rule with
  | .inline predicate => .ok (.inline predicate)
  | other =>
    match other.request? with
    | .error e => .error (.config e)
    | .ok none => .error (.config .missingName)
    | .ok (some request) => r.create request.name request.options

end Vetting
