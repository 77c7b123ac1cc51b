import Vetting.Proofs.Number.Exact
import Vetting.Proofs.Validator.Verdict
import Vetting.Proofs.Value.Order
import Vetting.Validator.Builtin

/-!
# Intervals

A range check of an interval compares a value with each end on its own, and each of the two
comparisons may have no answer.  Put together they say that the value lies between the ends
(`RangeBounds.admits_between_iff`), and then the order of values does the rest
(`Value.ordered_intervals`): what lies between two admitted values is admitted, an interval that
admits anything admits its ends, and one whose ends are not in order admits nothing.

The number check comes to its verdict the other way round: a NaN is refused first, and then a number
that is below the one bound or above the other.  For numbers an order without gaps makes the two
ways one (`Double.number_interval_agree`).
-/

namespace Vetting

variable {v : Validator} {start stop x y z : Value} {slot : String}

/-! ## Between the ends -/

/-- **An interval admits what lies between its ends.** -/
theorem RangeBounds.admits_between_iff :
    (between start stop).admits x = true ↔ start.AtMost x ∧ x.AtMost stop := by
  rw [admits, Bool.and_eq_true]
  refine and_congr ?lower ?upper
  case lower =>
    rw [Value.AtMost, Value.looseCompare?_swap x start]
    rcases x.looseCompare? start with _ | _ | _ | _ <;> decide
  case upper =>
    rw [Value.AtMost]
    rcases x.looseCompare? stop with _ | _ | _ | _ <;> decide

theorem Validator.judge_eq_valid_iff_of_between (h : v.check = .range (.between start stop)) :
    v.judge x = .valid ↔ start.AtMost x ∧ x.AtMost stop := by
  rw [judge_eq_valid_iff, h, ← RangeBounds.admits_between_iff]
  exact Check.passIf_eq_none_iff

/-- Where a value lies between two ends, these are in order. -/
theorem Value.ends_of_between (hstart : start.AtMost x) (hstop : x.AtMost stop) :
    start.Comparable stop ∧ ¬ stop.Below start := by
  have hends : start.AtMost stop := (hstart.trans hstop).1
  exact ⟨hends.comparable, fun h => (below_iff_not_atMost hends.comparable).1 h hends⟩

namespace Value

/-- **Values are ordered in three lines, and intervals are convex.**  The comparison has an answer
for two numbers other than NaN, two texts and two dates, and for nothing else.  There it is a total
order: it reverses when its sides are swapped, it is transitive, and it says that two values are
equal just when they are.  Numbers go by their place on the extended line, texts by their code
points or by their bytes, which is the same, and dates by their seconds and then their
nanoseconds.

So an interval admits what is comparable with both ends and lies between them.  With two values it
admits all that lie between these, and with any value its ends; and if the ends are not comparable,
or in the wrong order, it admits nothing. -/
theorem ordered_intervals :
    (∀ a b : Value, (∃ o, a.looseCompare? b = some o) ↔ Comparable a b) ∧
    (∀ a b : Value, Comparable a b → AtMost a b ∨ AtMost b a) ∧
    (∀ a b : Value, b.looseCompare? a = (a.looseCompare? b).map Ordering.swap) ∧
    (∀ a b c : Value, AtMost a b → AtMost b c →
      AtMost a c ∧ (Below a b ∨ Below b c → Below a c)) ∧
    (∀ a b : Value, Comparable a b →
      (a.looseCompare? b = some .eq ↔ a.strictEqual b = true)) ∧
    (∀ (x y : Double) (i j : Int), x.rank? = some i → y.rank? = some j →
      (number x).looseCompare? (number y) = some (compare i j)) ∧
    (∀ s t : String, (text s).looseCompare? (text t) =
        some (compare (s.toList.map Char.toNat) (t.toList.map Char.toNat)) ∧
      (text s).looseCompare? (text t) =
        some (compare s.toByteArray.data.toList t.toByteArray.data.toList)) ∧
    (∀ t u : Instant, (date t).looseCompare? (date u) =
      some ((compare t.seconds u.seconds).then (compare t.nanos u.nanos))) ∧
    ∀ (s : Settings) (start stop : Value),
      let range := { Builtin.range (.between start stop) with settings := s }
      (s.allowEmpty = false → ∀ x, range.validate x = range.judge x) ∧
      (∀ x, range.judge x = .valid ↔
        (Comparable start x ∧ Comparable x stop) ∧ AtMost start x ∧ AtMost x stop) ∧
      (∀ x y z, range.judge x = .valid → range.judge z = .valid → AtMost x y → AtMost y z →
        range.judge y = .valid) ∧
      (∀ x, range.judge x = .valid → range.judge start = .valid ∧ range.judge stop = .valid) ∧
      (¬ Comparable start stop ∨ Below stop start → ∀ x, range.judge x ≠ .valid) := by
  refine ⟨fun a b => exists_looseCompare?_iff, fun a b => AtMost.total, looseCompare?_swap,
    fun a b c => AtMost.trans, fun a b => looseCompare?_eq_eq_iff, ?numbers, ?texts,
    fun t u => rfl, ?intervals⟩
  case numbers =>
    intro x y i j hx hy
    exact looseCompare?_eq_some_iff.2 (.numbers hx hy)
  case texts =>
    intro s t
    exact ⟨congrArg some (compare_eq_compare_codes s t),
      congrArg some (compare_eq_compare_bytes s t)⟩
  case intervals =>
    intro s start stop range
    have hadmits (x : Value) : range.judge x = .valid ↔ AtMost start x ∧ AtMost x stop :=
      Validator.judge_eq_valid_iff_of_between rfl
    refine ⟨fun hflag x => ?_, fun x => ?_, fun x y z hx hz hxy hyz => ?_, fun x hx => ?_,
      fun hends x hx => ?_⟩
    · have hskips : range.skips x = false := by
        show (s.allowEmpty && x.isEmpty) = false
        rw [hflag, Bool.false_and]
      exact Validator.validate_eq_judge hskips
    · rw [hadmits]
      exact ⟨fun ⟨hstart, hstop⟩ => ⟨⟨hstart.comparable, hstop.comparable⟩, hstart, hstop⟩,
        fun h => h.2⟩
    · obtain ⟨hstart, -⟩ := (hadmits x).1 hx
      obtain ⟨-, hstop⟩ := (hadmits z).1 hz
      exact (hadmits y).2 ⟨(hstart.trans hxy).1, (hyz.trans hstop).1⟩
    · obtain ⟨hstart, hstop⟩ := (hadmits x).1 hx
      have hends : AtMost start stop := (hstart.trans hstop).1
      exact ⟨(hadmits start).2 ⟨hstart.comparable.atMost_self, hends⟩,
        (hadmits stop).2 ⟨hends, hstop.comparable.symm.atMost_self⟩⟩
    · obtain ⟨hstart, hstop⟩ := (hadmits x).1 hx
      obtain ⟨hcomparable, horder⟩ := ends_of_between hstart hstop
      exact hends.elim (fun h => h hcomparable) horder

/-- Two moments of a leap second with another one between them, in a range and in one that is turned
round. -/
theorem ordered_intervals_leap_second :
    let moment (nanos : Nat) : Value := .date ⟨59, nanos⟩
    let range := Builtin.range (.between (.date ⟨59, 0⟩) (.date ⟨60, 0⟩))
    let turned := Builtin.range (.between (.date ⟨60, 0⟩) (.date ⟨59, 0⟩))
    range.judge (moment 999999999) = .valid ∧ range.judge (moment 1999999999) = .valid ∧
    AtMost (moment 999999999) (moment 1000000000) ∧
    AtMost (moment 1000000000) (moment 1999999999) ∧
    range.judge (moment 1000000000) = .valid ∧ range.validate (moment 1000000000) = .valid ∧
    Below (.date ⟨59, 0⟩) (.date ⟨60, 0⟩) ∧ turned.judge (moment 1000000000) ≠ .valid := by
  intro moment range turned
  obtain ⟨-, -, -, -, -, -, -, -, hintervals⟩ := ordered_intervals
  obtain ⟨hvalidate, -, hconvex, -⟩ := hintervals range.settings (.date ⟨59, 0⟩) (.date ⟨60, 0⟩)
  obtain ⟨-, -, -, -, hempty⟩ := hintervals turned.settings (.date ⟨60, 0⟩) (.date ⟨59, 0⟩)
  have hbefore : range.judge (moment 999999999) = .valid := by decide
  have hafter : range.judge (moment 1999999999) = .valid := by decide
  have hfirst : AtMost (moment 999999999) (moment 1000000000) := Or.inl (by decide)
  have hsecond : AtMost (moment 1000000000) (moment 1999999999) := Or.inl (by decide)
  have hbetween := hconvex _ _ _ hbefore hafter hfirst hsecond
  have hends : Below (.date ⟨59, 0⟩) (.date ⟨60, 0⟩) := by decide
  exact ⟨hbefore, hafter, hfirst, hsecond, hbetween, (hvalidate rfl _).trans hbetween, hends,
    hempty (Or.inr hends) _⟩

end Value

/-! ## Bounds on numbers -/

namespace Double

variable {a b : Double} {min max : Double}

theorem isNaN_eq_true_iff : a.isNaN = true ↔ a = .nan := by
  cases a with
  | nan => exact iff_of_true rfl rfl
  | infinite s => exact iff_of_false Bool.false_ne_true nofun
  | finite s u fits => exact iff_of_false Bool.false_ne_true nofun

/-- To be below another number is to come before it among the values. -/
theorem lt_iff_below : a.lt b = true ↔ Value.Below (.number a) (.number b) := beq_iff_eq

theorem lt_iff {i j : Int} (ha : a.rank? = some i) (hb : b.rank? = some j) :
    a.lt b = true ↔ i < j := by
  rw [lt, compare?, ha, hb, beq_iff_eq, Option.some_inj, Int.compare_eq_lt]

theorem not_lt_iff_atMost (ha : a ≠ .nan) (hb : b ≠ .nan) :
    a.lt b = false ↔ Value.AtMost (.number b) (.number a) := by
  rw [← Bool.not_eq_true, lt_iff_below, Value.below_iff_not_atMost (.numbers hb ha), not_not]

@[simp] theorem isNaN_eq_false_iff : a.isNaN = false ↔ a ≠ .nan := by
  rw [← Bool.not_eq_true, isNaN_eq_true_iff]

/-- What breaks the bounds of a number check that has both. -/
theorem numberBreach_iff :
    NumberBreach (some min) (some max) x slot ↔
      (slot = "tooSmall" ∧ ∃ y, x = .number y ∧ y ≠ .nan ∧ y.lt min = true) ∨
      (slot = "tooLarge" ∧
        ∃ y, x = .number y ∧ y ≠ .nan ∧ y.lt min = false ∧ max.lt y = true) ∨
      (slot = "invalid" ∧ ∀ y, x = .number y → y = .nan) := by
  constructor
  · intro h
    cases h with
    | invalid h => exact Or.inr (Or.inr ⟨rfl, fun y hy => isNaN_eq_true_iff.1 (h y hy)⟩)
    | tooSmall hy hmin hbelow =>
      obtain rfl := Option.some.inj hmin
      exact Or.inl ⟨rfl, _, rfl, isNaN_eq_false_iff.1 hy, hbelow⟩
    | tooLarge hy hkept hmax habove =>
      obtain rfl := Option.some.inj hmax
      exact Or.inr (Or.inl ⟨rfl, _, rfl, isNaN_eq_false_iff.1 hy, hkept _ rfl, habove⟩)
  · rintro (⟨rfl, y, rfl, hy, hbelow⟩ | ⟨rfl, y, rfl, hy, hkept, habove⟩ | ⟨rfl, h⟩)
    · exact .tooSmall (isNaN_eq_false_iff.2 hy) rfl hbelow
    · exact .tooLarge (isNaN_eq_false_iff.2 hy) (fun m hm => Option.some.inj hm ▸ hkept) rfl habove
    · exact .invalid fun y hy => isNaN_eq_true_iff.2 (h y hy)

/-- **A value keeps both bounds of a number check exactly when it lies between them.** -/
theorem numberFailure?_eq_none_iff (hmin : min ≠ .nan) (hmax : max ≠ .nan) :
    numberFailure? (some min) (some max) x = none ↔
      (Value.number min).AtMost x ∧ x.AtMost (.number max) := by
  by_cases hx : ∃ y, x = .number y ∧ y ≠ .nan
  · obtain ⟨y, rfl, hy⟩ := hx
    rw [← not_lt_iff_atMost hy hmin, ← not_lt_iff_atMost hmax hy, numberFailure?,
      isNaN_eq_false_iff.2 hy]
    cases hbelow : y.lt min <;> cases habove : max.lt y <;> simp [hbelow, habove]
  · have hinvalid : numberFailure? (some min) (some max) x = some "invalid" := by
      rw [numberFailure?_eq_some_iff, numberBreach_iff]
      exact Or.inr (Or.inr ⟨rfl, fun y hy => not_not.1 fun hne => hx ⟨y, hy, hne⟩⟩)
    rw [hinvalid]
    refine iff_of_false (Option.some_ne_none _) ?_
    rintro ⟨hlower, -⟩
    cases hlower.comparable with
    | numbers _ hy => exact hx ⟨_, rfl, hy⟩

theorem judge_number_eq_valid_iff {v : Validator} (hcheck : v.check = .number (some min) (some max))
    (hmin : min ≠ .nan) (hmax : max ≠ .nan) :
    v.judge x = .valid ↔ (Value.number min).AtMost x ∧ x.AtMost (.number max) := by
  rw [Validator.judge_eq_valid_iff, hcheck, ← numberFailure?_eq_none_iff hmin hmax]
  exact Option.map_eq_none_iff

/-- **A number check and a range check with the same bounds agree**, whatever the value is, and with
the same flag also where empty values pass unchecked.  Both refuse what is no number, NaN, and with
the bounds in the wrong order everything.  The number check says what is wrong: a number below the
lower bound is too small, else one above the upper bound is too large, and anything else that is
refused is no number. -/
theorem number_interval_agree (hmin : min ≠ .nan) (hmax : max ≠ .nan) (s t : Settings) :
    let number := { Builtin.number (some min) (some max) with settings := s }
    let range := { Builtin.range (.between (.number min) (.number max)) with settings := t }
    (∀ x, number.judge x = .valid ↔ range.judge x = .valid) ∧
    (s.allowEmpty = t.allowEmpty → ∀ x, number.validate x = .valid ↔ range.validate x = .valid) ∧
    (∀ x, (∀ y, x = .number y → y = .nan) ∨ max.lt min = true →
      number.judge x ≠ .valid ∧ range.judge x ≠ .valid) ∧
    ∀ x,
      (∀ slot, number.RefusesFrom x slot → number.judge x = number.fail slot) ∧
      (number.RefusesFrom x "tooSmall" ↔ ∃ y, x = .number y ∧ y ≠ .nan ∧ y.lt min = true) ∧
      (number.RefusesFrom x "tooLarge" ↔
        ∃ y, x = .number y ∧ y ≠ .nan ∧ y.lt min = false ∧ max.lt y = true) ∧
      (number.RefusesFrom x "invalid" ↔ ∀ y, x = .number y → y = .nan) := by
  intro number range
  have hnumber (x : Value) : number.judge x = .valid ↔
      (Value.number min).AtMost x ∧ x.AtMost (.number max) :=
    judge_number_eq_valid_iff rfl hmin hmax
  have hrange (x : Value) : range.judge x = .valid ↔
      (Value.number min).AtMost x ∧ x.AtMost (.number max) :=
    Validator.judge_eq_valid_iff_of_between rfl
  refine ⟨fun x => (hnumber x).trans (hrange x).symm, fun hflag x => ?flag,
    fun x hx => ?neither, fun x => ?slots⟩
  case flag =>
    have hskips : number.skips x = range.skips x := congrArg (· && x.isEmpty) hflag
    rw [Validator.validate, Validator.validate, hskips]
    cases range.skips x with
    | true => exact Iff.rfl
    | false => exact (hnumber x).trans (hrange x).symm
  case neither =>
    have hnone : ¬ ((Value.number min).AtMost x ∧ x.AtMost (.number max)) := by
      rintro ⟨hlower, hupper⟩
      obtain ⟨-, horder⟩ := Value.ends_of_between hlower hupper
      rcases hx with hx | hx
      · cases hlower.comparable with
        | numbers _ hy => exact hy (hx _ rfl)
      · exact horder (lt_iff_below.1 hx)
    exact ⟨fun h => hnone ((hnumber x).1 h), fun h => hnone ((hrange x).1 h)⟩
  case slots =>
    have hslot (slot : String) :
        number.RefusesFrom x slot ↔ NumberBreach (some min) (some max) x slot := by
      rw [← numberFailure?_eq_some_iff]
      exact Validator.refusesFrom_iff_of_failingWith rfl
    refine ⟨fun slot hrefuses => hrefuses.judge_eq, ?_⟩
    simp only [hslot, numberBreach_iff, String.reduceEq, true_and, false_and, or_false, false_or,
      and_self]

/-- From the one zero to the other there are both of them; NaN and the infinities are outside. -/
theorem number_interval_agree_zeros :
    let number := Builtin.number (some .zero) (some .negZero)
    let range := Builtin.range (.between (.number .zero) (.number .negZero))
    zero ≠ .nan ∧ negZero ≠ .nan ∧ number.settings.allowEmpty = range.settings.allowEmpty ∧
    number.validate (.number .negZero) = .valid ∧ range.validate (.number .negZero) = .valid ∧
    number.judge (.number .nan) ≠ .valid ∧ range.judge (.number .nan) ≠ .valid ∧
    number.RefusesFrom (.number (.infinite true)) "tooSmall" ∧
    number.RefusesFrom (.number (.infinite false)) "tooLarge" ∧
    number.RefusesFrom (.text "0") "invalid" := by
  intro number range
  have hzero : zero ≠ .nan := nofun
  have hnegZero : negZero ≠ .nan := nofun
  have hlimit : (0 : Int) < limitUnits := Int.natCast_pos.2 limitUnits_pos
  have hbelow : (infinite true).lt zero = true := (lt_iff rfl rfl).2 (Int.neg_neg_of_pos hlimit)
  have hkept : (infinite false).lt zero = false :=
    Bool.eq_false_iff.2 fun h => Int.lt_asymm hlimit ((lt_iff rfl rfl).1 h)
  have habove : negZero.lt (infinite false) = true := (lt_iff rfl rfl).2 hlimit
  obtain ⟨-, hvalidate, hneither, hslots⟩ :=
    number_interval_agree hzero hnegZero number.settings range.settings
  have hvalid : number.validate (.number .negZero) = .valid := by decide +kernel
  obtain ⟨hnumber, hrange⟩ :=
    hneither (.number .nan) (Or.inl fun y hy => (Value.number.inj hy).symm)
  refine ⟨hzero, hnegZero, rfl, hvalid, (hvalidate rfl _).1 hvalid, hnumber, hrange,
    (hslots _).2.1.2 ⟨_, rfl, nofun, hbelow⟩,
    (hslots _).2.2.1.2 ⟨_, rfl, nofun, hkept, habove⟩,
    (hslots _).2.2.2.2 fun _ h => nomatch h⟩

end Double

end Vetting
