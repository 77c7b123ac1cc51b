import Vetting.Check.Address
import Vetting.Check.Bounds
import Vetting.Check.Clock
import Vetting.Check.Kind
import Vetting.Message
import Vetting.Settings
import Vetting.Value.Text

/-!
# Checks

What a validator decides, apart from its name, its messages and its handling of empty values.  A
check that fails names the slot of its message and what the tokens of the template stand for.
-/

namespace Vetting

/-- What a value is checked against. -/
inductive Check where
  /-- Not empty. -/
  | required
  | type (expected : String)
  | instanceOf (cls : ClassRef)
  | length (min max : Option Nat)
  | number (min max : Option Double)
  /-- Equal to one of the values that stand for true or for false. -/
  | boolean (trueValues falseValues : List Value)
  /-- A text, which matches the pattern if there is one. -/
  | regexp (pattern : Option Regex)
  | range (bounds : RangeBounds)
  | url (schemes : List String) (strict : Bool) (pattern : Regex.Pattern)
  | email (pattern : Regex.Pattern)
  | ip (v4 v6 : Bool)
  | hostname
  | date
  | time
  | datetime
  /-- A test of the user's; without one everything passes. -/
  | custom (test : Option (Value → Bool))
  /-- A verdict of the user's, taken as it is. -/
  | inline (predicate : Value → Outcome)

/-- Why a check fails. -/
inductive Failure where
  /-- With the message of a slot, given what its tokens stand for. -/
  | slot (slot : String) (references : String → Option String)
  /-- With a message of its own. -/
  | message (text : String)

namespace Check

/-- What a token stands for in the messages of a check: a part of its configuration. -/
def reference? : Check → String → Option String
  | .type expected, token => if token = "expected" then some expected else none
  | .instanceOf cls, token => if token = "expected" then some cls.name else none
  | .length min max, token =>
    if token = "min" then min.map toString
    else if token = "max" then max.map toString
    else none
  | .number min max, token =>
    if token = "min" then min.map Double.display
    else if token = "max" then max.map Double.display
    else none
  | .regexp pattern, token => if token = "pattern" then pattern.map Regex.source else none
  | .range (.between start stop), token =>
    if token = "start" then some start.display
    else if token = "stop" then some stop.display
    else none
  | _, _ => none

/-- The references of a mismatch. -/
def mismatch (expected got : String) : String → Option String :=
  Template.reference? [("expected", expected), ("got", got)]

/-- Passes if the condition holds, and fails with a slot otherwise. -/
def passIf (c : Check) (condition : Bool) (slot : String) : Option Failure :=
  if condition then none else some (.slot slot c.reference?)

/-- Fails with a slot if there is one. -/
def failingWith (c : Check) (slot : Option String) : Option Failure :=
  slot.map fun s => .slot s c.reference?

/-- Why a value fails a check, none if it passes. -/
def failure? (c : Check) (v : Value) : Option Failure :=
  match c with
  | .required => c.passIf (!v.isEmpty) Messages.defaultSlot
  | .type expected =>
    if v.isOfKind expected then none
    else some (.slot Messages.defaultSlot (mismatch expected v.typeTag))
  | .instanceOf cls =>
    if cls.admits v then none
    else some (.slot Messages.defaultSlot (mismatch cls.name v.kindName))
  | .length min max => c.failingWith (lengthFailure? min max v)
  | .number min max => c.failingWith (numberFailure? min max v)
  | .boolean trueValues falseValues =>
    c.passIf ((trueValues.any fun x => x.strictEqual v) || falseValues.any fun x => x.strictEqual v)
      Messages.defaultSlot
  | .regexp pattern =>
    match v, pattern with
    | .text s, some r => c.passIf (r.isMatch s) Messages.defaultSlot
    | .text _, none => none
    | _, _ => c.failingWith (some "badType")
  | .range bounds => c.passIf (bounds.admits v) bounds.slot
  | .url _ strict pattern =>
    c.passIf (Address.matchesUrl pattern strict v.display) Messages.defaultSlot
  | .email pattern => c.passIf (pattern.isMatch v.display) Messages.defaultSlot
  | .ip v4 v6 => c.passIf (Address.isIp v4 v6 v.display) Messages.defaultSlot
  | .hostname => c.passIf (Address.isHostname v.display) Messages.defaultSlot
  | .date => c.passIf (v.isDate || Clock.isDate v.display) Messages.defaultSlot
  | .time => c.passIf (v.isDate || Clock.isTime v.display) Messages.defaultSlot
  | .datetime => c.passIf (v.isDate || Clock.isDateTime v.display) Messages.defaultSlot
  | .custom test => c.passIf (test.all fun t => t v) Messages.defaultSlot
  | .inline predicate => (predicate v).error?.map .message

end Check

end Vetting
