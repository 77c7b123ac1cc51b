import Vetting.Value.Basic

/-!
# Equality and order of values

Values have no identity, so equality looks at contents.  It is defined twice: `Value.equal` by
recursion on both values at once, and `Value.strictEqual` by comparing first the shape of two
containers and then their members in pairs.  Numbers compare numerically, so the zeros are equal
and NaN equals nothing, itself included.

Only numbers, texts and dates are ordered, each among themselves.
-/

namespace Vetting

namespace Value

mutual

/-- Equality by contents. -/
def equal : Value → Value → Bool
  | .undefined, .undefined => true
  | .null, .null => true
  | .bool a, .bool b => a == b
  | .number a, .number b => a == b
  | .text a, .text b => a == b
  | .array as, .array bs => equalItems as bs
  | .object p as, .object q bs => p == q && equalFields as bs
  | .date a, .date b => a == b
  | _, _ => false

def equalItems : List Value → List Value → Bool
  | [], [] => true
  | a :: as, b :: bs => equal a b && equalItems as bs
  | _, _ => false

def equalFields : List (String × Value) → List (String × Value) → Bool
  | [], [] => true
  | (k, a) :: as, (l, b) :: bs => k == l && equal a b && equalFields as bs
  | _, _ => false

end

instance : BEq Value := ⟨equal⟩

mutual

/-- Equality without coercion: kinds never mix, containers have the same size and equal members. -/
def strictEqual : Value → Value → Bool
  | .undefined, .undefined => true
  | .null, .null => true
  | .bool a, .bool b => a == b
  | .number a, .number b => a == b
  | .text a, .text b => a == b
  | .date a, .date b => a == b
  | .array as, .array bs => as.length == bs.length && strictEqualItems as bs
  | .object p as, .object q bs => p == q && as.length == bs.length && strictEqualFields as bs
  | _, _ => false

/-- Whether the items agree as far as both lists reach. -/
def strictEqualItems : List Value → List Value → Bool
  | a :: as, b :: bs => strictEqual a b && strictEqualItems as bs
  | _, _ => true

/-- Whether keys and values agree as far as both lists reach. -/
def strictEqualFields : List (String × Value) → List (String × Value) → Bool
  | (k, a) :: as, (l, b) :: bs => k == l && strictEqual a b && strictEqualFields as bs
  | _, _ => true

end

/-- The order of two numbers, two texts or two dates. -/
def looseCompare? : Value → Value → Option Ordering
  | .number a, .number b => a.compare? b
  | .text a, .text b => some (compare a b)
  | .date a, .date b => some (a.order b)
  | _, _ => none

end Value

end Vetting
