import Mathlib.Algebra.Group.Nat.Defs
import Vetting.Number.Double

/-!
# Numbers that rounding leaves alone

A number of units that a double can hold is its own nearest double: what rounding would cut off is
zero (`nearestUnits_one`).  Whole numbers up to 2⁵³ are of this kind, since their units have 1074
zeros at the end and no more than 53 places in front of them, the bound itself being a single bit.
So they come back as they went in (`Double.toNat?_ofNat`).
-/

namespace Vetting

/-- **Rounding leaves units that fit as they are.** -/
theorem nearestUnits_one {units : Nat} (h : Nat.pow 2 (units.log2 + 1 - 53) ∣ units) :
    nearestUnits units 1 = units := by
  have hrest : units % (1 * Nat.pow 2 (units.log2 + 1 - 53)) = 0 := by
    rw [Nat.one_mul]
    exact Nat.mod_eq_zero_of_dvd h
  have hstep : 0 < 1 * Nat.pow 2 (units.log2 + 1 - 53) := by
    rw [Nat.one_mul]
    exact twoPow_pos _
  simp only [nearestUnits, Nat.div_one]
  rw [hrest, Nat.mul_zero, if_pos hstep, Nat.one_mul]
  exact Nat.div_mul_cancel h

theorem oneUnits_eq : oneUnits = 2 ^ unitPlaces := by
  delta oneUnits
  generalize unitPlaces = places
  rfl

theorem limitUnits_eq : limitUnits = 2 ^ limitPlaces := by
  delta limitUnits
  generalize limitPlaces = places
  rfl

theorem oneUnits_pos : 0 < oneUnits := by
  unfold oneUnits
  exact twoPow_pos unitPlaces

theorem limitUnits_pos : 0 < limitUnits := by
  unfold limitUnits
  exact twoPow_pos limitPlaces

/-! Powers with literal exponents are not to be evaluated, so what follows is about any number of
places; those of a double come in at the end. -/

section Places

variable {n bits places limit : Nat}

/-- A number shifted to the left has the places of the number and then those of the shift. -/
theorem log2_mul_two_pow (hn : n ≠ 0) : (n * 2 ^ places).log2 = n.log2 + places := by
  have hpos := Nat.two_pow_pos places
  have hlower : 2 ^ n.log2 ≤ n := Nat.log2_self_le hn
  have hupper : n < 2 ^ (n.log2 + 1) := Nat.lt_log2_self
  rw [Nat.log2_eq_iff (Nat.mul_ne_zero hn (Nat.ne_of_gt hpos))]
  constructor
  · rw [Nat.pow_add]
    exact Nat.mul_le_mul_right _ hlower
  · rw [Nat.add_right_comm, Nat.pow_add]
    exact Nat.mul_lt_mul_of_pos_right hupper hpos

theorem mul_two_pow_lt (hn : n ≤ 2 ^ bits) (hlimit : bits + places < limit) :
    n * 2 ^ places < 2 ^ limit := by
  have hle : n * 2 ^ places ≤ 2 ^ bits * 2 ^ places := Nat.mul_le_mul_right _ hn
  have hlt : 2 ^ (bits + places) < 2 ^ limit := Nat.pow_lt_pow_right (by decide) hlimit
  rw [Nat.pow_add] at hlt
  exact Nat.lt_of_le_of_lt hle hlt

/-- Enough zeros at the end: all bits that do not count are among them. -/
theorem two_pow_dvd_mul_two_pow (hn : n ≤ 2 ^ bits) (hbits : 0 < bits) :
    2 ^ ((n * 2 ^ places).log2 + 1 - bits) ∣ n * 2 ^ places := by
  rcases Nat.eq_zero_or_pos n with rfl | hpos
  · rw [Nat.zero_mul]
    exact Nat.dvd_zero _
  · rw [log2_mul_two_pow (Nat.ne_of_gt hpos)]
    rcases Nat.lt_or_eq_of_le hn with hlt | rfl
    · -- the last bit that is kept is no lower than the bit of one
      have hlog : n.log2 < bits := (Nat.log2_lt (Nat.ne_of_gt hpos)).2 hlt
      have hshift : n.log2 + places + 1 - bits ≤ places := by omega
      exact Nat.dvd_trans (Nat.pow_dvd_pow 2 hshift) (Nat.dvd_mul_left _ _)
    · have hshift : bits + places + 1 - bits ≤ bits + places := by omega
      rw [Nat.log2_two_pow, ← Nat.pow_add]
      exact Nat.pow_dvd_pow 2 hshift

end Places

theorem fits_mul_oneUnits {n : Nat} (hn : n ≤ 2 ^ 53) : Fits (n * oneUnits) := by
  have hlimit : 53 + unitPlaces < limitPlaces := by decide
  have hbits : 0 < 53 := by decide
  unfold Fits
  rw [limitUnits_eq, oneUnits_eq, Nat.pow_eq]
  generalize unitPlaces = places at hlimit ⊢
  exact ⟨mul_two_pow_lt hn hlimit, two_pow_dvd_mul_two_pow hn hbits⟩

namespace Double

theorem ofNat_eq {n : Nat} (hn : n ≤ 2 ^ 53) :
    ofNat n = .finite false (n * oneUnits) (fits_mul_oneUnits hn) := by
  have hfits := fits_mul_oneUnits hn
  have hnearest : nearestUnits (n * oneUnits) 1 = n * oneUnits := nearestUnits_one hfits.2
  simp only [ofNat, ofRatio, ofUnitRatio, hnearest]
  rw [dif_pos hfits.1]

theorem toNat?_finite {units : Nat} (fits : Fits units) (h : units % oneUnits = 0) :
    (finite false units fits).toNat? = some (units / oneUnits) :=
  if_pos ⟨h, Or.inl rfl⟩

/-- **A whole number up to 2⁵³ is kept exactly.** -/
theorem toNat?_ofNat {n : Nat} (hn : n ≤ 2 ^ 53) : (ofNat n).toNat? = some n := by
  have hmod : n * oneUnits % oneUnits = 0 := Nat.mul_mod_left n oneUnits
  rw [ofNat_eq hn, toNat?_finite _ hmod, Nat.mul_div_cancel n oneUnits_pos]

end Double

end Vetting
