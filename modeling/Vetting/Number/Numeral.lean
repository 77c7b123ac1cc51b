import Vetting.Number.Double

/-!
# Reading numerals

A numeral is a run of digits and a decimal exponent.  `Double.ofNumeral` takes the nearest double
at once.  `Double.ofSignificand?` is what the JSON reader uses: it rounds the digits first and then
scales once, which for long numerals can end one place off the nearest double.
-/

namespace Vetting

namespace Double

/-- The double nearest to `± digits · 10 ^ exponent`.  Exponents so large that no double is near
are settled without computing the power. -/
def ofNumeral (negative : Bool) (digits : Nat) (exponent : Int) : Double :=
  if digits = 0 then .finite negative 0 fits_zero
  else if 400 < exponent then .infinite negative
  else if exponent < -(400 + digits.log2 : Int) then .finite negative 0 fits_zero
  else ofRatio negative (digits * Nat.pow 10 exponent.toNat) (Nat.pow 10 (-exponent).toNat)

/-- A power of ten as a double. -/
def powerOfTen (exponent : Nat) : Double := ofNat (Nat.pow 10 exponent)

/-- Divides by 10³⁰⁸ until the exponent left is within reach of a single power of ten, then
scales by that.  The fuel bounds the divisions; a third one always yields zero. -/
def scaleDown : Nat → Double → Nat → Double
  | 0, x, _ => x
  | fuel + 1, x, exponent =>
    if exponent ≤ 308 then x.div (powerOfTen exponent)
    else scaleDown fuel (x.div (powerOfTen 308)) (exponent - 308)

/-- The double of `digits · 10 ^ exponent`, rounded after each step; none when it is too large. -/
def ofSignificand? (digits : Nat) (exponent : Int) : Option Double :=
  let x := ofNat digits
  if digits = 0 then some x
  else if exponent < 0 then some (scaleDown 4 x exponent.natAbs)
  else if 308 < exponent then none
  else
    let y := x.mul (powerOfTen exponent.toNat)
    if y.isFinite then some y else none

end Double

end Vetting
