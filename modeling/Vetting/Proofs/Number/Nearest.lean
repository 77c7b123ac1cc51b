import Vetting.Proofs.Number.Exact

/-!
# Rounding goes to the nearest double

`nearestUnits` cuts a quotient behind its first 53 places and decides by what it cut off.  A `Cut`
holds what there is to know about this, and the rest follows from it: units that fit have their set
bits within 53 places, so none of them lie strictly between the two ways to round
(`Cut.le_or_le`), and of these two the nearer one is taken, or else the even one.

Hence a whole number becomes the nearest of all doubles (`Double.isNearest_ofInt`), as long as it is
not so large that the nearest one would be beyond the limit.
-/

namespace Vetting

variable {num den shift floor rest rounded units : Nat}

/-! ## The cut -/

/-- A quotient is cut at a place that leaves at most 53 places in front, and no less than that
unless everything is left. -/
structure Cut (num den shift floor rest : Nat) : Prop where
  eq : num = floor * (den * 2 ^ shift) + rest
  rest_lt : rest < den * 2 ^ shift
  floor_lt : floor < 2 ^ 53
  le_floor : 0 < shift → 2 ^ 52 ≤ floor

/-- A number is rounded by what was cut off, half of a step going to the even side. -/
inductive Rounds (step floor rest : Nat) : Nat → Prop
  | down (h : 2 * rest < step) : Rounds step floor rest floor
  | even (h : 2 * rest = step) : Rounds step floor rest (floor + floor % 2)
  | up (h : step < 2 * rest) : Rounds step floor rest (floor + 1)

theorem exists_cut (num : Nat) (hden : 0 < den) :
    ∃ shift floor rest rounded, Cut num den shift floor rest ∧
      Rounds (den * 2 ^ shift) floor rest rounded ∧
      nearestUnits num den = rounded * 2 ^ shift := by
  have hfloor := floor_lt_two_pow num den
  simp only [nearestUnits, Nat.pow_eq] at hfloor ⊢
  generalize hshift : (num / den).log2 + 1 - 53 = shift at hfloor ⊢
  have hstep : 0 < den * 2 ^ shift := Nat.mul_pos hden (Nat.two_pow_pos shift)
  refine ⟨shift, num / (den * 2 ^ shift), num % (den * 2 ^ shift), _,
    ⟨?eq, Nat.mod_lt _ hstep, hfloor, ?le⟩, ?_, rfl⟩
  case eq =>
    rw [Nat.mul_comm]
    exact (Nat.div_add_mod _ _).symm
  case le =>
    intro hpos
    have hne : num / den ≠ 0 := by
      intro h
      rw [h, Nat.log2_zero] at hshift
      omega
    have hplaces : (num / den).log2 = 52 + shift := by omega
    rw [← Nat.div_div_eq_div_mul, Nat.le_div_iff_mul_le (Nat.two_pow_pos shift), ← Nat.pow_add,
      ← hplaces]
    exact Nat.log2_self_le hne
  · split
    · exact .down (by assumption)
    · split
      · exact .even (by assumption)
      · exact .up (by omega)

/-- **Units that fit do not lie between the two ways to round.** -/
theorem Cut.le_or_le (h : Cut num den shift floor rest)
    (hunits : 2 ^ (units.log2 + 1 - 53) ∣ units) :
    units ≤ floor * 2 ^ shift ∨ (floor + 1) * 2 ^ shift ≤ units := by
  rcases Nat.lt_or_ge (floor * 2 ^ shift) units with hlt | hle
  · -- beyond the floor the last place that may be set is no lower than the step
    have hdvd : 2 ^ shift ∣ units := by
      rcases Nat.eq_zero_or_pos shift with rfl | hpos
      · exact Nat.one_dvd units
      · have hlower : 2 ^ (52 + shift) ≤ units := by
          rw [Nat.pow_add]
          exact Nat.le_trans (Nat.mul_le_mul_right _ (h.le_floor hpos)) (Nat.le_of_lt hlt)
        have hne : units ≠ 0 := by omega
        have hlog : 52 + shift ≤ units.log2 := (Nat.le_log2 hne).2 hlower
        exact Nat.dvd_trans (Nat.pow_dvd_pow 2 (by omega)) hunits
    obtain ⟨k, rfl⟩ := hdvd
    rw [Nat.mul_comm (2 ^ shift) k] at hlt ⊢
    have hk : floor < k := Nat.lt_of_mul_lt_mul_right hlt
    exact Or.inr (Nat.mul_le_mul_right _ hk)
  · exact Or.inl hle

/-! ## The nearest units -/

/-- The last of 53 places is empty. -/
def EndsEven (units : Nat) : Prop := 2 * 2 ^ (units.log2 + 1 - 53) ∣ units

theorem endsEven_mul_two_pow (heven : 2 ∣ rounded) (hle : rounded ≤ 2 ^ 53) :
    EndsEven (rounded * 2 ^ shift) := by
  unfold EndsEven
  rcases Nat.eq_zero_or_pos rounded with rfl | hpos
  · rw [Nat.zero_mul]
    exact Nat.dvd_zero _
  · rw [log2_mul_two_pow (Nat.ne_of_gt hpos)]
    rcases Nat.lt_or_eq_of_le hle with hlt | rfl
    · have hlog : rounded.log2 < 53 := (Nat.log2_lt (Nat.ne_of_gt hpos)).2 hlt
      exact Nat.mul_dvd_mul heven (Nat.pow_dvd_pow 2 (by omega))
    · have hpow : 2 * 2 ^ (53 + shift + 1 - 53) = 2 ^ (shift + 2) := by
        rw [Nat.mul_comm, ← Nat.pow_succ]
        exact congrArg (2 ^ ·) (by omega)
      rw [Nat.log2_two_pow, hpow, ← Nat.pow_add]
      exact Nat.pow_dvd_pow 2 (by omega)

/-- Of two neighbours a step apart the one is taken that is no further off. -/
theorem natAbs_sub_le_of_neighbours {below step taken other : Nat} (hnum : num = below + rest)
    (hrest : rest < step) (hother : other ≤ below ∨ below + step ≤ other)
    (htaken : (2 * rest ≤ step ∧ taken = below) ∨ (step ≤ 2 * rest ∧ taken = below + step)) :
    ((num : Int) - taken).natAbs ≤ ((num : Int) - other).natAbs ∧
      (((num : Int) - taken).natAbs = ((num : Int) - other).natAbs → other ≠ taken →
        2 * rest = step) := by
  omega

theorem Rounds.eq_or_eq {step : Nat} (h : Rounds step floor rest rounded) :
    (2 * rest ≤ step ∧ rounded = floor) ∨ (step ≤ 2 * rest ∧ rounded = floor + 1) := by
  cases h with
  | down h => omega
  | even h => omega
  | up h => omega

/-- **No units that fit are nearer to a quotient than the nearest units, and of two equally near
these are the ones that end even.** -/
theorem nearestUnits_nearest (num : Nat) (hden : 0 < den)
    (hunits : 2 ^ (units.log2 + 1 - 53) ∣ units) :
    ((num : Int) - (nearestUnits num den * den : Nat)).natAbs ≤
        ((num : Int) - (units * den : Nat)).natAbs ∧
      (((num : Int) - (nearestUnits num den * den : Nat)).natAbs =
          ((num : Int) - (units * den : Nat)).natAbs →
        units ≠ nearestUnits num den → EndsEven (nearestUnits num den)) := by
  obtain ⟨shift, floor, rest, rounded, hcut, hrounds, heq⟩ := exists_cut num hden
  have hscale (n : Nat) : n * 2 ^ shift * den = n * (den * 2 ^ shift) := by
    rw [Nat.mul_assoc, Nat.mul_comm (2 ^ shift)]
  have hother : units * den ≤ floor * (den * 2 ^ shift) ∨
      floor * (den * 2 ^ shift) + den * 2 ^ shift ≤ units * den := by
    rw [← Nat.succ_mul, ← hscale, ← hscale]
    exact (hcut.le_or_le hunits).imp (Nat.mul_le_mul_right den) (Nat.mul_le_mul_right den)
  have htaken : (2 * rest ≤ den * 2 ^ shift ∧
        nearestUnits num den * den = floor * (den * 2 ^ shift)) ∨
      (den * 2 ^ shift ≤ 2 * rest ∧
        nearestUnits num den * den = floor * (den * 2 ^ shift) + den * 2 ^ shift) := by
    rw [heq, hscale, ← Nat.succ_mul]
    exact hrounds.eq_or_eq.imp (And.imp_right (congrArg (· * _)))
      (And.imp_right (congrArg (· * _)))
  obtain ⟨hle, htie⟩ := natAbs_sub_le_of_neighbours hcut.eq hcut.rest_lt hother htaken
  refine ⟨hle, fun hequal hne => ?_⟩
  have hhalf := htie hequal fun h => hne (Nat.eq_of_mul_eq_mul_right hden h)
  have hfloor := hcut.floor_lt
  rw [heq]
  cases hrounds with
  | down h => omega
  | even h => exact endsEven_mul_two_pow (by omega) (by omega)
  | up h => omega

/-- Units that fit and lie above a number are not exceeded by the nearest units. -/
theorem nearestUnits_le_of_le (hunits : 2 ^ (units.log2 + 1 - 53) ∣ units) (hle : num ≤ units) :
    nearestUnits num 1 ≤ units := by
  obtain ⟨hnearest, -⟩ := nearestUnits_nearest num Nat.one_pos hunits
  rw [Nat.mul_one, Nat.mul_one] at hnearest
  omega

namespace Double

/-! ## Whole numbers -/

/-- The double nearest to a whole number: no finite double is less far off, and where another one is
as far off the last place of this one is empty. -/
structure IsNearest (i : Int) (x : Double) : Prop where
  finite : x.isFinite = true
  nearest : ∀ (y : Double) (place other : Int), y.isFinite = true → x.rank? = some place →
    y.rank? = some other →
      (i * oneUnits - place).natAbs ≤ (i * oneUnits - other).natAbs ∧
        ((i * oneUnits - place).natAbs = (i * oneUnits - other).natAbs → other ≠ place →
          EndsEven place.natAbs)

theorem nearestUnits_lt_limitUnits {n : Nat} (hn : n ≤ 2 ^ 64) :
    nearestUnits (n * oneUnits) 1 < limitUnits := by
  have hplaces : 64 + unitPlaces < limitPlaces := by decide
  rw [limitUnits_eq, oneUnits_eq]
  generalize unitPlaces = places at hplaces ⊢
  have hle : n * 2 ^ places ≤ 1 * 2 ^ (64 + places) := by
    rw [Nat.one_mul, Nat.pow_add]
    exact Nat.mul_le_mul_right _ hn
  have hfits : 2 ^ ((1 * 2 ^ (64 + places)).log2 + 1 - 53) ∣ 1 * 2 ^ (64 + places) :=
    two_pow_dvd_mul_two_pow (by decide) (by decide)
  refine Nat.lt_of_le_of_lt (nearestUnits_le_of_le hfits hle) ?_
  rw [Nat.one_mul]
  exact Nat.pow_lt_pow_right (by decide) hplaces

/-- The integer of a sign and a magnitude. -/
def signed (negative : Bool) (n : Nat) : Int := if negative then -(n : Int) else n

@[simp] theorem rank?_finite {negative : Bool} (fits : Fits units) :
    (finite negative units fits).rank? = some (signed negative units) := rfl

@[simp] theorem rank?_infinite (negative : Bool) :
    (infinite negative).rank? = some (signed negative limitUnits) := rfl

/-- The sign counts but for zero. -/
theorem signed_eq_signed_iff {s t : Bool} {m n : Nat} :
    signed s m = signed t n ↔ (s && m != 0) = (t && n != 0) ∧ m = n := by
  cases s <;> cases t <;> grind [signed]

@[simp] theorem natAbs_signed (negative : Bool) (n : Nat) : (signed negative n).natAbs = n := by
  cases negative <;> simp [signed]

theorem mul_eq_signed (i : Int) (k : Nat) : i * k = signed (i < 0) (i.natAbs * k) := by
  rw [signed, Int.natCast_mul]
  by_cases hi : i < 0
  · rw [decide_eq_true hi, if_pos rfl, Int.ofNat_natAbs_of_nonpos (by omega), Int.neg_mul,
      Int.neg_neg]
  · rw [decide_eq_false hi, if_neg Bool.false_ne_true, Int.natAbs_of_nonneg (by omega)]

/-- What is nearest among magnitudes is nearest among numbers of any sign.  Beyond zero there is
nothing nearer than zero itself. -/
theorem signed_nearest {nearest : Nat} {even : Prop} (negative sign : Bool)
    (hunits : ((num : Int) - nearest).natAbs ≤ ((num : Int) - units).natAbs ∧
      (((num : Int) - nearest).natAbs = ((num : Int) - units).natAbs → units ≠ nearest → even))
    (hzero : ((num : Int) - nearest).natAbs ≤ ((num : Int) - (0 : Nat)).natAbs ∧
      (((num : Int) - nearest).natAbs = ((num : Int) - (0 : Nat)).natAbs → 0 ≠ nearest → even)) :
    (signed negative num - signed negative nearest).natAbs ≤
        (signed negative num - signed sign units).natAbs ∧
      ((signed negative num - signed negative nearest).natAbs =
          (signed negative num - signed sign units).natAbs →
        signed sign units ≠ signed negative nearest → even) := by
  obtain ⟨hle, htie⟩ := hunits
  obtain ⟨hleZero, htieZero⟩ := hzero
  by_cases hsign : sign = negative
  · subst hsign
    cases sign <;> simp only [signed, if_true, Bool.false_eq_true, if_false]
    all_goals exact ⟨by omega, fun hequal hne => htie (by omega) (by omega)⟩
  · obtain rfl := Bool.eq_not_of_ne hsign
    cases negative <;> simp only [signed, Bool.not_true, Bool.not_false, if_true,
      Bool.false_eq_true, if_false]
    all_goals exact ⟨by omega, fun hequal hne => htieZero (by omega) (by omega)⟩

theorem exists_ofInt {i : Int} (hi : i.natAbs ≤ 2 ^ 64) :
    ∃ fits, ofInt i = .finite (i < 0) (nearestUnits (i.natAbs * oneUnits) 1) fits := by
  have hlimit := nearestUnits_lt_limitUnits hi
  refine ⟨⟨hlimit, dvd_nearestUnits _ 1⟩, ?_⟩
  simp only [ofInt, ofRatio, ofUnitRatio]
  exact dif_pos hlimit

/-- **A whole number of the range becomes the nearest double.** -/
theorem isNearest_ofInt {i : Int} (hi : i.natAbs ≤ 2 ^ 64) : (ofInt i).IsNearest i := by
  obtain ⟨hfits, hofInt⟩ := exists_ofInt hi
  rw [hofInt]
  refine ⟨rfl, ?_⟩
  intro y place other hy hplace hother
  cases y with
  | nan => cases hy
  | infinite negative => cases hy
  | finite sign units fits =>
    rw [rank?_finite] at hplace hother
    obtain rfl := Option.some.inj hplace
    obtain rfl := Option.some.inj hother
    have hunits := nearestUnits_nearest (i.natAbs * oneUnits) Nat.one_pos fits.2
    have hzero := nearestUnits_nearest (i.natAbs * oneUnits) Nat.one_pos fits_zero.2
    rw [Nat.mul_one, Nat.mul_one] at hunits hzero
    rw [mul_eq_signed, natAbs_signed]
    exact signed_nearest _ _ hunits hzero

end Double

end Vetting
