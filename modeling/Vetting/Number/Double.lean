/-!
# Binary floating-point numbers

A finite double is a whole number of *units*, the unit being the least positive double, 2⁻¹⁰⁷⁴.
In units every comparison is a comparison of integers, and a number is whole exactly when its
units are a multiple of 2¹⁰⁷⁴, so nothing about order, equality or integrality needs rounding.

Not every number of units is a double: only its 53 leading bits may be set, and it stays below
2²⁰⁹⁸.  `Fits` says so, and the constructor carries the proof.

## Main definitions

* `Double.rank?`: the place of a double on the extended line; NaN has none
* `nearestUnits`: a quotient rounded to the nearest number of units that fits, ties to even
* `Double.ofRatio`, `Double.mul`, `Double.div`: correctly rounded arithmetic
-/

namespace Vetting

/-- The least positive double is this power of one half. -/
def unitPlaces : Nat := 1074

/-- The least power of two beyond all doubles, counted in units. -/
def limitPlaces : Nat := 2098

/-- The units in one. -/
def oneUnits : Nat := Nat.pow 2 unitPlaces

/-- No finite double reaches this many units. -/
def limitUnits : Nat := Nat.pow 2 limitPlaces

/-- Units whose set bits lie within 53 consecutive places, below the limit. -/
def Fits (units : Nat) : Prop :=
  units < limitUnits ∧ Nat.pow 2 (units.log2 + 1 - 53) ∣ units

instance (units : Nat) : Decidable (Fits units) :=
  inferInstanceAs (Decidable (_ ∧ _))

theorem twoPow_pos (places : Nat) : 0 < Nat.pow 2 places := Nat.two_pow_pos places

theorem fits_zero : Fits 0 := by
  unfold Fits limitUnits
  exact ⟨twoPow_pos limitPlaces, Nat.dvd_zero _⟩

/-- A double: not a number, an infinity, or a signed number of units. -/
inductive Double where
  | nan
  | infinite (negative : Bool)
  | finite (negative : Bool) (units : Nat) (fits : Fits units)

/-! ## Rounding -/

/-- The quotient `num / den` rounded to 53 significant bits, a tie to the even neighbour.  The
quotient is cut at the last of these bits, and the part cut off decides. -/
def nearestUnits (num den : Nat) : Nat :=
  let shift := (num / den).log2 + 1 - 53
  let step := den * Nat.pow 2 shift
  let floor := num / step
  let rest := num % step
  let rounded :=
    if 2 * rest < step then floor
    else if 2 * rest = step then floor + floor % 2
    else floor + 1
  rounded * Nat.pow 2 shift

theorem floor_lt_two_pow (num den : Nat) :
    num / (den * Nat.pow 2 ((num / den).log2 + 1 - 53)) < Nat.pow 2 53 := by
  simp only [Nat.pow_eq]
  rw [← Nat.div_div_eq_div_mul]
  apply Nat.div_lt_of_lt_mul
  rw [← Nat.pow_add]
  refine Nat.lt_of_lt_of_le Nat.lt_log2_self ?_
  exact Nat.pow_le_pow_right (by decide) (by omega)

/-- Rounding leaves at most 53 leading bits. -/
theorem dvd_nearestUnits (num den : Nat) :
    Nat.pow 2 ((nearestUnits num den).log2 + 1 - 53) ∣ nearestUnits num den := by
  have hfloor := floor_lt_two_pow num den
  simp only [nearestUnits]
  generalize (num / den).log2 + 1 - 53 = shift at hfloor ⊢
  generalize hstep : den * Nat.pow 2 shift = step at hfloor ⊢
  generalize hm : (if 2 * (num % step) < step then num / step
    else if 2 * (num % step) = step then num / step + num / step % 2 else num / step + 1) = m
  have hle : m ≤ 2 ^ 53 := by
    subst hm
    rw [Nat.pow_eq] at hfloor
    generalize num / step = floor at hfloor ⊢
    split
    · omega
    · split <;> omega
  clear hm
  simp only [Nat.pow_eq]
  rcases Nat.eq_or_lt_of_le hle with rfl | hlt
  · -- the carry out of 53 ones is a single bit
    rw [← Nat.pow_add, Nat.log2_two_pow]
    exact Nat.pow_dvd_pow 2 (by omega)
  · rcases Nat.eq_zero_or_pos m with rfl | hpos
    · simp
    · have hne : m * 2 ^ shift ≠ 0 :=
        Nat.mul_ne_zero (by omega) (Nat.ne_of_gt (Nat.two_pow_pos shift))
      have hlog : (m * 2 ^ shift).log2 < 53 + shift := by
        rw [Nat.log2_lt hne, Nat.pow_add]
        exact Nat.mul_lt_mul_of_pos_right hlt (Nat.two_pow_pos shift)
      exact Nat.dvd_trans (Nat.pow_dvd_pow 2 (by omega)) (Nat.dvd_mul_left _ _)

namespace Double

/-- The double nearest to `num / den` units, an infinity beyond the limit. -/
def ofUnitRatio (negative : Bool) (num den : Nat) : Double :=
  if h : nearestUnits num den < limitUnits then
    .finite negative (nearestUnits num den) ⟨h, dvd_nearestUnits num den⟩
  else .infinite negative

/-- The double nearest to `± num / den`. -/
def ofRatio (negative : Bool) (num den : Nat) : Double :=
  ofUnitRatio negative (num * oneUnits) den

def ofNat (n : Nat) : Double := ofRatio false n 1

def ofInt (i : Int) : Double := ofRatio (i < 0) i.natAbs 1

def zero : Double := .finite false 0 fits_zero

def negZero : Double := .finite true 0 fits_zero

instance : Inhabited Double := ⟨zero⟩

/-- The same magnitude with the other sign. -/
def neg : Double → Double
  | .nan => .nan
  | .infinite s => .infinite !s
  | .finite s u h => .finite (!s) u h

/-- The product, rounded once. -/
def mul : Double → Double → Double
  | .finite s u _, .finite t v _ => ofUnitRatio (s != t) (u * v) oneUnits
  | .infinite s, .finite t v _ => if v = 0 then .nan else .infinite (s != t)
  | .finite s u _, .infinite t => if u = 0 then .nan else .infinite (s != t)
  | .infinite s, .infinite t => .infinite (s != t)
  | .nan, _ => .nan
  | _, .nan => .nan

/-- The quotient, rounded once. -/
def div : Double → Double → Double
  | .finite s u _, .finite t v _ =>
    if v ≠ 0 then ofRatio (s != t) u v
    else if u = 0 then .nan else .infinite (s != t)
  | .infinite s, .finite t _ _ => .infinite (s != t)
  | .finite s _ _, .infinite t => .finite (s != t) 0 fits_zero
  | .infinite _, .infinite _ => .nan
  | .nan, _ => .nan
  | _, .nan => .nan

/-! ## Order -/

/-- The place on the extended line, in units.  Both zeros have the place 0, the infinities stand
at the limit on either side, and NaN has no place. -/
def rank? : Double → Option Int
  | .nan => none
  | .infinite s => some (if s then -(limitUnits : Int) else limitUnits)
  | .finite s u _ => some (if s then -(u : Int) else u)

def isNaN : Double → Bool
  | .nan => true
  | _ => false

def isFinite : Double → Bool
  | .finite .. => true
  | _ => false

/-- Numeric equality: the zeros are equal, and NaN equals nothing. -/
def equal (a b : Double) : Bool :=
  match a.rank?, b.rank? with
  | some i, some j => i == j
  | _, _ => false

instance : BEq Double := ⟨equal⟩

/-- The order of two numbers; NaN is unordered. -/
def compare? (a b : Double) : Option Ordering :=
  match a.rank?, b.rank? with
  | some i, some j => some (compare i j)
  | _, _ => none

/-- Strictly below, which no comparison with NaN is. -/
def lt (a b : Double) : Bool := a.compare? b == some .lt

/-! ## Whole numbers -/

/-- The value of a whole non-negative double; `-0` counts as 0. -/
def toNat? : Double → Option Nat
  | .finite s u _ =>
    if u % oneUnits = 0 ∧ (s = false ∨ u = 0) then some (u / oneUnits) else none
  | _ => none

end Double

end Vetting
