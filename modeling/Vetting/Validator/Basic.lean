import Vetting.Check.Basic

/-!
# Validators

A validator is a check with a name and settings.  It lets empty values pass if its settings say so,
and puts the failures of its check into the words of its messages.
-/

namespace Vetting

structure Validator where
  /-- The name it is registered under. -/
  name : String
  settings : Settings
  check : Check

namespace Validator

def allowEmpty (v : Validator) : Bool := v.settings.allowEmpty

/-- The template of the default slot. -/
def message (v : Validator) : String := v.settings.messages.get Messages.defaultSlot

def setAllowEmpty (v : Validator) (allowEmpty : Bool) : Validator :=
  { v with settings := { v.settings with allowEmpty } }

/-- Overwrites the template of a slot. -/
def setTemplate (v : Validator) (slot template : String) : Validator :=
  { v with settings := { v.settings with messages := v.settings.messages.set slot template } }

/-- Overwrites the template of the default slot. -/
def setMessage (v : Validator) (template : String) : Validator :=
  v.setTemplate Messages.defaultSlot template

/-- What a token stands for unless a failure says otherwise. -/
def reference? (v : Validator) (token : String) : Option String := v.check.reference? token

/-- A template filled from the configuration. -/
def prepare (v : Validator) (template : String) : String :=
  Template.prepare template v.reference?

/-- The failure with the message of a slot. -/
def failWith (v : Validator) (slot : String) (references : String → Option String) : Outcome :=
  .invalid (Template.prepare (v.settings.messages.get slot) references)

/-- The failure with the message of a slot, filled from the configuration. -/
def fail (v : Validator) (slot : String) : Outcome := v.failWith slot v.reference?

/-- The verdict of the check alone. -/
def judge (v : Validator) (x : Value) : Outcome :=
  match v.check.failure? x with
  | none => .valid
  | some (.slot slot references) => v.failWith slot references
  | some (.message text) => .invalid text

/-- Whether an empty value passes unchecked.  A predicate of the user's sees every value. -/
def skips (v : Validator) (x : Value) : Bool :=
  match v.check with
  | .inline _ => false
  | _ => v.settings.allowEmpty && x.isEmpty

/-- The verdict on a value. -/
def validate (v : Validator) (x : Value) : Outcome := if v.skips x then .valid else v.judge x

/-- Applies the common options. -/
def configured (v : Validator) : Reading Validator := do
  return { v with settings := ← v.settings.configured }

end Validator

end Vetting
