import Vetting.Number.Double

/-!
# The shortest decimal that reads back

Reading a decimal rounds it to a double, so each double has a *basin*: the reals that round to it.
The decimal chosen for a double is the one with the fewest digits in its basin and, of those, the
nearest to the double itself.

On the grid of all decimals with a given number of digits, if any point lies in the basin then so
does one of the two neighbours of the double, because the basin is an interval around it.  It is
therefore enough to try these two, on ever finer grids; 17 digits always suffice.
-/

namespace Vetting

/-- The number `digits · 10 ^ exponent`. -/
structure Decimal where
  digits : Nat
  exponent : Int
  deriving DecidableEq, Repr

/-- Which of two equally near decimals is taken. -/
inductive Tie where
  | up
  | toEven
  deriving DecidableEq, Repr

namespace Decimal

/-- The value in quarters of a unit, as a numerator over a denominator.  Quarters are fine enough
for the ends of every basin. -/
def quarters (d : Decimal) : Nat × Nat :=
  (4 * d.digits * oneUnits * Nat.pow 10 d.exponent.toNat, Nat.pow 10 (-d.exponent).toNat)

/-- The same number without trailing zero digits.  The fuel bounds the zeros taken away. -/
def stripZeros : Nat → Decimal → Decimal
  | 0, d => d
  | fuel + 1, d =>
    if d.digits ≠ 0 ∧ d.digits % 10 = 0 then stripZeros fuel ⟨d.digits / 10, d.exponent + 1⟩
    else d

end Decimal

/-- The reals that round to a double, in quarters of a unit. -/
structure Basin where
  low : Nat
  high : Nat
  /-- Whether the ends belong to it: a tie is rounded to the even neighbour. -/
  closed : Bool

namespace Basin

/-- The basin reaches half way to either neighbour.  Just below a power of two the doubles lie
twice as dense, except at the least power that has all its 53 bits. -/
def ofUnits (units : Nat) : Basin :=
  let gap := Nat.pow 2 (units.log2 + 1 - 53)
  let below := if 1 < gap ∧ units = Nat.pow 2 units.log2 then gap else 2 * gap
  ⟨4 * units - below, 4 * units + 2 * gap, units / gap % 2 == 0⟩

def contains (b : Basin) (d : Decimal) : Bool :=
  let (num, den) := d.quarters
  if b.closed then b.low * den ≤ num && num ≤ b.high * den
  else b.low * den < num && num < b.high * den

end Basin

namespace Shortest

/-- The exponent of the leading decimal digit of a positive number of units.  Every double is at
least 10⁻³²⁴, so 340 places after the point show its leading digit. -/
def leadingExponent (units : Nat) : Int :=
  ((Nat.toDigits 10 (units * Nat.pow 10 340 / oneUnits)).length : Int) - 341

/-- The multiple of `10 ^ exponent` at or just below a number of units. -/
def floorOn (units : Nat) (exponent : Int) : Decimal :=
  ⟨units * Nat.pow 10 (-exponent).toNat / (oneUnits * Nat.pow 10 exponent.toNat), exponent⟩

/-- Of the neighbours `floor` and `floor + 1` on one grid, the one in the basin; of two, the
nearer. -/
def choose? (units : Nat) (tie : Tie) (floor : Decimal) : Option Decimal :=
  let basin := Basin.ofUnits units
  let above : Decimal := { floor with digits := floor.digits + 1 }
  match basin.contains floor, basin.contains above with
  | false, false => none
  | true, false => some floor
  | false, true => some above
  | true, true =>
    let (low, den) := floor.quarters
    let middle := low + above.quarters.1
    let twice := 8 * units * den
    if twice < middle then some floor
    else if middle < twice then some above
    else match tie with
      | .up => some above
      | .toEven => some (if floor.digits % 2 = 0 then floor else above)

/-- The shortest decimal of a positive number of units. -/
def decimal (units : Nat) (tie : Tie) : Decimal :=
  let leading := leadingExponent units
  let grid (places : Nat) : Decimal := floorOn units (leading - places)
  let found := (List.range 17).findSome? fun places => choose? units tie (grid places)
  (found.getD (grid 16)).stripZeros 20

end Shortest

end Vetting
