import Vetting.Value.Order

/-!
# Bounds

Lower and upper bounds on the size of a value, on a number, and on anything that is ordered.
-/

namespace Vetting

/-- What the size of a value is counted in. -/
inductive Measure where
  | characters
  | items
  | keys
  deriving DecidableEq, Repr

namespace Measure

/-- The size of a value, if it has one.  A date counts as an object without keys. -/
def of? : Value → Option (Measure × Nat)
  | .text s => some (.characters, s.length)
  | .array xs => some (.items, xs.length)
  | .object prototype fields => some (.keys, (⟨prototype, .ofList fields⟩ : Object).size)
  | .date _ => some (.keys, 0)
  | _ => none

/-- The message slot of a size below the lower bound. -/
def tooShortSlot : Measure → String
  | .characters => "tooShortString"
  | .items => "tooShortArray"
  | .keys => "tooShortObject"

/-- The message slot of a size above the upper bound. -/
def tooLongSlot : Measure → String
  | .characters => "tooLongString"
  | .items => "tooLongArray"
  | .keys => "tooLongObject"

end Measure

/-- The slot of the bound on the size of a value that is broken first. -/
def lengthFailure? (min max : Option Nat) (v : Value) : Option String :=
  match Measure.of? v with
  | none => some "invalid"
  | some (measure, size) =>
    if min.any fun n => size < n then some measure.tooShortSlot
    else if max.any fun n => n < size then some measure.tooLongSlot
    else none

/-- The slot of the bound on a number that is broken first; NaN is no number. -/
def numberFailure? (min max : Option Double) : Value → Option String
  | .number x =>
    if x.isNaN then some "invalid"
    else if min.any fun bound => x.lt bound then some "tooSmall"
    else if max.any fun bound => bound.lt x then some "tooLarge"
    else none
  | _ => some "invalid"

/-- What a value has to be among. -/
inductive RangeBounds where
  | oneOf (values : List Value)
  | between (start stop : Value)

namespace RangeBounds

/-- Whether a value equals one of the list, or is comparable with both ends and between them. -/
def admits : RangeBounds → Value → Bool
  | .oneOf values, v => values.any fun x => x.strictEqual v
  | .between start stop, v =>
    let above := match v.looseCompare? start with
      | some .gt | some .eq => true
      | _ => false
    let below := match v.looseCompare? stop with
      | some .lt | some .eq => true
      | _ => false
    above && below

/-- The message slot of a value that is not admitted. -/
def slot : RangeBounds → String
  | .oneOf _ => "in"
  | .between .. => "between"

end RangeBounds

end Vetting
