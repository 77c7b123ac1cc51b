import Mathlib.Data.Rat.Cast.Order
import Mathlib.Data.Finset.Card
import Vetting.Proofs.Validator.Spelling

/-!
# Bounds on sizes

The length check is given its bounds as doubles and keeps them as natural numbers, no more than
2⁶⁴ - 1.  What it decides is nevertheless decided by the numbers that were given: a whole number
is kept as it is up to that limit (`OptionDecoder.count_eq_ok_iff`), and beyond it the limit is just
as far above any size as the number was (`Options.exists_lt_stored_iff`).

* `Value.IsBound` says which values are bounds and of what number; negative zero is one of zero.
* `Value.HasSize` says which values have a size, and what it is counted in.
* `Builtin.length_exact` puts the two together: which options the length check accepts, and which
  values it accepts and refuses, and from which slot, in terms of these numbers and sizes alone.
-/

namespace Vetting

/-! ## The numbers that doubles stand for -/

namespace Double

variable {x : Double} {n : Nat}

/-- The rational number that a finite double stands for. -/
def rational? : Double → Option ℚ
  | .finite s u _ => some ((if s then -(u : ℤ) else u : ℤ) / oneUnits)
  | _ => none

/-- **The whole number that a double is taken for is the number that it stands for.** -/
theorem toNat?_eq_some_iff : x.toNat? = some n ↔ x.rational? = some (n : ℚ) := by
  cases x with
  | nan => exact iff_of_false (Option.some_ne_none _).symm (Option.some_ne_none _).symm
  | infinite s => exact iff_of_false (Option.some_ne_none _).symm (Option.some_ne_none _).symm
  | finite s u fits =>
    have hone : (oneUnits : ℚ) ≠ 0 := Nat.cast_ne_zero.2 (Nat.ne_of_gt oneUnits_pos)
    have hwhole : (finite s u fits).toNat? = some n ↔
        u = n * oneUnits ∧ (s = false ∨ u = 0) := by
      rw [toNat?]
      split
      · rename_i h
        rw [Option.some_inj, and_iff_left h.2]
        exact Nat.div_eq_iff_eq_mul_left oneUnits_pos (Nat.dvd_of_mod_eq_zero h.1)
      · rename_i h
        refine iff_of_false (Option.some_ne_none _).symm ?_
        rintro ⟨hu, hsign⟩
        exact h ⟨hu ▸ Nat.mul_mod_left n oneUnits, hsign⟩
    rw [hwhole, rational?, Option.some_inj, div_eq_iff hone, ← Nat.cast_mul,
      ← Int.cast_natCast (n * oneUnits), Int.cast_inj]
    generalize n * oneUnits = place
    -- only zero has two signs
    cases s with
    | false =>
      simp only [Bool.false_eq_true, if_false, true_or, and_true]
      omega
    | true =>
      simp only [if_true, Bool.true_eq_false, false_or]
      omega

end Double

/-! ## Bounds -/

namespace Value

variable {v : Value} {q : ℚ} {n : Nat}

/-- A bound on sizes: a number that stands for a whole number and no negative one. -/
def IsBound (v : Value) (q : ℚ) : Prop :=
  ∃ x, v = .number x ∧ x.rational? = some q ∧ 0 ≤ q ∧ ∃ i : ℤ, q = i

theorem isBound_natCast_iff : v.IsBound n ↔ ∃ x, v = .number x ∧ x.toNat? = some n := by
  simp only [Double.toNat?_eq_some_iff]
  constructor
  · rintro ⟨x, hv, hx, -⟩
    exact ⟨x, hv, hx⟩
  · rintro ⟨x, hv, hx⟩
    exact ⟨x, hv, hx, Nat.cast_nonneg n, n, (Int.cast_natCast n).symm⟩

theorem IsBound.exists_nat (h : v.IsBound q) : ∃ n : Nat, q = n := by
  obtain ⟨x, -, -, hnonneg, i, rfl⟩ := h
  obtain ⟨n, rfl⟩ := Int.eq_ofNat_of_zero_le (Int.cast_nonneg_iff.1 hnonneg)
  exact ⟨n, Int.cast_natCast n⟩

end Value

namespace OptionDecoder

variable {v : Value} {n : Nat}

/-- **A count is the number of a bound, or the limit if that is less.** -/
theorem count_eq_ok_iff :
    count v = .ok n ↔ ∃ m : Nat, v.IsBound m ∧ n = min m countLimit := by
  simp only [Value.isBound_natCast_iff]
  cases v with
  | number x =>
    rw [count]
    cases hx : x.toNat? with
    | none =>
      constructor
      · rintro ⟨⟩
      · rintro ⟨m, ⟨_, ⟨⟩, hm⟩, -⟩
        cases hx.symm.trans hm
    | some m =>
      constructor
      · rintro ⟨⟩
        exact ⟨m, ⟨x, rfl, hx⟩, rfl⟩
      · rintro ⟨_, ⟨_, ⟨⟩, hm⟩, rfl⟩
        rw [Option.some.inj (hx.symm.trans hm)]
  | _ =>
    constructor
    · rintro ⟨⟩
    · rintro ⟨m, ⟨_, ⟨⟩, -⟩, -⟩

end OptionDecoder

theorem Value.exists_isBound_iff {v : Value} : (∃ q, v.IsBound q) ↔ v.IsCount := by
  rw [← OptionDecoder.exists_count_eq_ok_iff]
  simp only [OptionDecoder.count_eq_ok_iff]
  constructor
  · rintro ⟨q, hq⟩
    obtain ⟨m, rfl⟩ := hq.exists_nat
    exact ⟨_, m, hq, rfl⟩
  · rintro ⟨n, m, hm, -⟩
    exact ⟨m, hm⟩

theorem OptionDecoder.count_eq_error {v : Value} (h : ¬ ∃ q, v.IsBound q) :
    count v = .error (.mistyped .count v) := by
  rw [Value.exists_isBound_iff, ← exists_count_eq_ok_iff] at h
  cases v with
  | number x =>
    rw [count] at h ⊢
    cases hx : x.toNat? with
    | none => rfl
    | some n =>
      rw [hx] at h
      exact absurd ⟨_, rfl⟩ h
  | _ => rfl

namespace Options

variable {options : Options} {validator key : String} {stored : Option Nat} {size : Nat}

/-- The number of the bound given under a name. -/
def Bound (options : Options) (key : String) (q : ℚ) : Prop :=
  ∃ v, options.given? key = some v ∧ v.IsBound q

theorem stored_eq_some_iff
    (h : options.read validator key OptionDecoder.count = .ok stored) {n : Nat} :
    stored = some n ↔ ∃ m : Nat, options.Bound key m ∧ n = min m OptionDecoder.countLimit := by
  cases hgiven : options.given? key with
  | none =>
    rw [read_of_given?_eq_none hgiven] at h
    obtain rfl := Except.ok.inj h
    refine iff_of_false (fun h => nomatch h) ?_
    rintro ⟨m, ⟨v, hv, -⟩, -⟩
    cases hgiven.symm.trans hv
  | some v =>
    have hbound (m : Nat) : options.Bound key m ↔ v.IsBound m := by
      rw [Bound, hgiven]
      exact ⟨fun ⟨_, hw, hm⟩ => Option.some.inj hw ▸ hm, fun hm => ⟨v, rfl, hm⟩⟩
    simp only [hbound, ← OptionDecoder.count_eq_ok_iff]
    rw [read_of_given?_eq_some hgiven] at h
    cases hv : OptionDecoder.count v with
    | error fault => rw [hv] at h; cases h
    | ok m =>
      rw [hv] at h
      rw [← Except.ok.inj h, Option.some_inj, Except.ok.injEq]

/-- No size that can be had reaches the limit of what is kept. -/
theorem lt_countLimit (hsize : size < 2 ^ 63) : size < OptionDecoder.countLimit := by
  have hlimit : 2 ^ 63 < OptionDecoder.countLimit := by decide
  exact hsize.trans hlimit

/-- **What is kept of a lower bound is above the same sizes as the bound.** -/
theorem exists_lt_stored_iff (h : options.read validator key OptionDecoder.count = .ok stored)
    (hsize : size < 2 ^ 63) :
    (∃ n, stored = some n ∧ size < n) ↔ ∃ a, options.Bound key a ∧ (size : ℚ) < a := by
  simp only [stored_eq_some_iff h]
  constructor
  · rintro ⟨_, ⟨m, hm, rfl⟩, hlt⟩
    exact ⟨m, hm, Nat.cast_lt.2 (lt_min_iff.1 hlt).1⟩
  · rintro ⟨a, ha, hlt⟩
    obtain ⟨v, hv, hbound⟩ := ha
    obtain ⟨m, rfl⟩ := hbound.exists_nat
    exact ⟨_, ⟨m, ⟨v, hv, hbound⟩, rfl⟩, lt_min (Nat.cast_lt.1 hlt) (lt_countLimit hsize)⟩

/-- **What is kept of an upper bound is below the same sizes as the bound.** -/
theorem exists_stored_lt_iff (h : options.read validator key OptionDecoder.count = .ok stored)
    (hsize : size < 2 ^ 63) :
    (∃ n, stored = some n ∧ n < size) ↔ ∃ b, options.Bound key b ∧ b < (size : ℚ) := by
  simp only [stored_eq_some_iff h]
  constructor
  · rintro ⟨_, ⟨m, hm, rfl⟩, hlt⟩
    have hm' : m < size :=
      (min_lt_iff.1 hlt).resolve_right (Nat.lt_asymm (lt_countLimit hsize))
    exact ⟨m, hm, Nat.cast_lt.2 hm'⟩
  · rintro ⟨b, ⟨v, hv, hbound⟩, hlt⟩
    obtain ⟨m, rfl⟩ := hbound.exists_nat
    exact ⟨_, ⟨m, ⟨v, hv, hbound⟩, rfl⟩, min_lt_of_left_lt (Nat.cast_lt.1 hlt)⟩

end Options

/-! ## Sizes -/

namespace Dict

variable {α : Type}

/-- A dictionary has as many entries as there are keys. -/
theorem size_ofList (pairs : List (String × α)) :
    (ofList pairs).size = (pairs.map Prod.fst).toFinset.card := by
  have hkeys : (pairs.map Prod.fst).toFinset = (ofList pairs).keys.toFinset := by
    ext key
    rw [List.mem_toFinset, List.mem_toFinset, mem_keys_ofList]
  rw [hkeys, List.toFinset_card_of_nodup (nodup_keys _), keys, List.length_map]
  rfl

end Dict

/-- The size of a value and what it is counted in: the characters of a text, the items of an array
and the keys of an object, each once and of whatever prototype.  A date has no keys. -/
inductive Value.HasSize : Value → Measure → Nat → Prop
  | text (s : String) : HasSize (.text s) .characters s.toList.length
  | array (items : List Value) : HasSize (.array items) .items items.length
  | object (prototype : Prototype) (fields : List (String × Value)) :
      HasSize (.object prototype fields) .keys (fields.map Prod.fst).toFinset.card
  | date (t : Instant) : HasSize (.date t) .keys 0

namespace Measure

variable {x : Value} {measure : Measure} {size : Nat}

theorem of?_eq_some_iff : of? x = some (measure, size) ↔ x.HasSize measure size := by
  constructor
  · intro h
    cases x with
    | text s =>
      obtain ⟨⟩ := h
      exact .text s
    | array items =>
      obtain ⟨⟩ := h
      exact .array items
    | object prototype fields =>
      rw [of?, Object.size, Dict.size_ofList] at h
      obtain ⟨⟩ := h
      exact .object prototype fields
    | date t =>
      obtain ⟨⟩ := h
      exact .date t
    | _ => cases h
  · intro h
    cases h with
    | text s => rfl
    | array items => rfl
    | object prototype fields => rw [of?, Object.size, Dict.size_ofList]
    | date t => rfl

theorem of?_eq_none_iff : of? x = none ↔ ∀ measure size, ¬ x.HasSize measure size := by
  simp only [← of?_eq_some_iff, Option.eq_none_iff_forall_ne_some, Prod.forall, ne_eq]

theorem tooShortSlot_ne_tooLongSlot (measure : Measure) :
    measure.tooShortSlot ≠ measure.tooLongSlot := by
  cases measure <;> decide

end Measure

/-! ## The check -/

section Breach

variable {min max : Option Nat} {x : Value} {measure : Measure} {size : Nat} {slot : String}

/-- What breaks the bounds on a value that has a size. -/
theorem lengthBreach_iff_of_hasSize (h : x.HasSize measure size) :
    LengthBreach min max x slot ↔
      (slot = measure.tooShortSlot ∧ ∃ n, min = some n ∧ size < n) ∨
      (slot = measure.tooLongSlot ∧ (¬ ∃ n, min = some n ∧ size < n) ∧
        ∃ n, max = some n ∧ n < size) := by
  have hsize : Measure.of? x = some (measure, size) := Measure.of?_eq_some_iff.2 h
  have hkept : (∀ m, min = some m → m ≤ size) ↔ ¬ ∃ n, min = some n ∧ size < n := by
    simp only [not_exists, not_and, Nat.not_lt]
  rw [← hkept]
  constructor
  · intro hbreach
    cases hbreach with
    | unsized hnone => cases hnone.symm.trans hsize
    | tooShort hsize' hmin hshort =>
      cases hsize'.symm.trans hsize
      exact Or.inl ⟨rfl, _, hmin, hshort⟩
    | tooLong hsize' hlong hmax hbeyond =>
      cases hsize'.symm.trans hsize
      exact Or.inr ⟨rfl, hlong, _, hmax, hbeyond⟩
  · rintro (⟨rfl, n, hmin, hshort⟩ | ⟨rfl, hlong, n, hmax, hbeyond⟩)
    · exact .tooShort hsize hmin hshort
    · exact .tooLong hsize hlong hmax hbeyond

theorem lengthBreach_tooShort_iff (h : x.HasSize measure size) :
    LengthBreach min max x measure.tooShortSlot ↔ ∃ n, min = some n ∧ size < n := by
  rw [lengthBreach_iff_of_hasSize h, and_iff_right rfl,
    or_iff_left fun ⟨hslot, _⟩ => measure.tooShortSlot_ne_tooLongSlot hslot]

theorem lengthBreach_tooLong_iff (h : x.HasSize measure size) :
    LengthBreach min max x measure.tooLongSlot ↔
      (¬ ∃ n, min = some n ∧ size < n) ∧ ∃ n, max = some n ∧ n < size := by
  rw [lengthBreach_iff_of_hasSize h, and_iff_right rfl,
    or_iff_right fun ⟨hslot, _⟩ => measure.tooShortSlot_ne_tooLongSlot hslot.symm]

theorem lengthFailure?_eq_none_iff (h : x.HasSize measure size) :
    lengthFailure? min max x = none ↔
      (¬ ∃ n, min = some n ∧ size < n) ∧ ¬ ∃ n, max = some n ∧ n < size := by
  simp only [Option.eq_none_iff_forall_ne_some, ne_eq, lengthFailure?_eq_some_iff,
    lengthBreach_iff_of_hasSize h]
  constructor
  · intro hnone
    have hshort : ¬ ∃ n, min = some n ∧ size < n := fun hmin => hnone _ (Or.inl ⟨rfl, hmin⟩)
    exact ⟨hshort, fun hmax => hnone _ (Or.inr ⟨rfl, hshort, hmax⟩)⟩
  · rintro ⟨hshort, hlong⟩ slot (⟨-, hmin⟩ | ⟨-, -, hmax⟩)
    · exact hshort hmin
    · exact hlong hmax

theorem lengthBreach_invalid_iff :
    LengthBreach min max x "invalid" ↔ ∀ measure size, ¬ x.HasSize measure size := by
  rw [← Measure.of?_eq_none_iff]
  constructor
  · generalize hslot : "invalid" = slot
    intro hbreach
    cases hbreach with
    | unsized hnone => exact hnone
    | @tooShort measure => cases measure <;> exact absurd hslot (by decide)
    | @tooLong measure => cases measure <;> exact absurd hslot (by decide)
  · exact .unsized

end Breach

namespace Builtin

variable {options : Options} {factory : Factory} {v : Validator}

theorem exists_factory_length_iff [Regex.Engine] (h : factory? "length" = some factory) :
    (∃ v, factory options = .ok v) ↔
      (options.Gives "min" ∨ options.Gives "max") ∧
      (∀ key ∈ ["min", "max"], ∀ a, options.given? key = some a → ∃ q, a.IsBound q) ∧
      options.WellFormed Settings.commonForms ∧
      ∀ key ∈ options.keys, key ∈ ["min", "max"] ++ Settings.commonKeys := by
  obtain ⟨g, hg, hoptions⟩ := factory_grammar h
  obtain rfl := Option.some.inj hg
  simp only [Value.exists_isBound_iff, List.forall_mem_cons, List.not_mem_nil,
    false_implies, implies_true, and_true]
  rw [(hoptions options).1]
  constructor
  · rintro ⟨⟨hforms, hrequires⟩, hknown⟩
    obtain ⟨hmin, hmax⟩ := Options.wellFormed_cons.1 hforms
    obtain ⟨hmax, hcommon⟩ := Options.wellFormed_cons.1 hmax
    exact ⟨hrequires, ⟨hmin, hmax⟩, hcommon, hknown⟩
  · rintro ⟨hrequires, ⟨hmin, hmax⟩, hcommon, hknown⟩
    have hforms := Options.wellFormed_cons.2 ⟨hmin, Options.wellFormed_cons.2 ⟨hmax, hcommon⟩⟩
    exact ⟨⟨hforms, hrequires⟩, hknown⟩

/-- Two bounds are accepted if nothing is given besides. -/
theorem exists_factory_length_of_spells [Regex.Engine] {a b : Value} {p q : ℚ}
    (h : factory? "length" = some factory)
    (ho : options.Spells [("min", some a), ("max", some b)]) (ha : a.IsBound p)
    (hb : b.IsBound q) : ∃ v, factory options = .ok v := by
  have hmin : options.given? "min" = some a := ho.given _ _ List.mem_cons_self
  have hmax : options.given? "max" = some b :=
    ho.given _ _ (List.mem_cons_of_mem _ List.mem_cons_self)
  have hbounds : ∀ key ∈ ["min", "max"], ∀ v,
      options.given? key = some v → ∃ q, v.IsBound q := by
    simp only [List.forall_mem_cons, hmin, hmax, Option.some_inj, forall_eq']
    exact ⟨⟨p, ha⟩, ⟨q, hb⟩, List.forall_mem_nil _⟩
  have hcommon : options.WellFormed Settings.commonForms := by
    intro key form hmem v hv
    cases (ho.common key (List.mem_map.2 ⟨_, hmem, rfl⟩)).symm.trans hv
  exact (exists_factory_length_iff h).2
    ⟨Or.inl (Option.isSome_iff_exists.2 ⟨a, hmin⟩), hbounds, hcommon, ho.known⟩

theorem spellable_bounds {a b : Value} (ha : a.isNullish = false) (hb : b.isNullish = false) :
    Options.Spellable [("min", some a), ("max", some b)] where
  nodup := by
    show ["min", "max"].Nodup
    decide
  notCommon := by
    show ∀ key ∈ Settings.commonKeys, key ∉ ["min", "max"]
    decide
  notNullish key v hmem := by
    rcases List.mem_cons.1 hmem with heq | hmem
    · cases heq
      exact ha
    · cases List.mem_singleton.1 hmem
      exact hb

/-- What the options of the length check come to, if reading a bound fails. -/
theorem factory_length_eq_error [Regex.Engine] {e : ConfigError}
    (h : factory? "length" = some factory)
    (hbase : lengthRecipe.base "length" options = .error e) : factory options = .error e := by
  obtain ⟨recipe, hrecipe, reading, hreading, rfl⟩ := exists_recipe_of_factory? h
  obtain rfl : lengthRecipe = recipe := Option.some.inj hrecipe
  refine hreading.denotes.ofOptions_eq_error_iff.2 (Or.inl ?_)
  rw [Recipe.meaning, hbase, error_bind]

/-- The bounds of a length check as it keeps them. -/
theorem exists_stored_of_factory_length [Regex.Engine] (h : factory? "length" = some factory)
    (hv : factory options = .ok v) :
    ∃ min max, options.read "length" "min" OptionDecoder.count = .ok min ∧
      options.read "length" "max" OptionDecoder.count = .ok max ∧ v.check = .length min max := by
  have hrecipe : recipes.lookup "length" = some lengthRecipe := rfl
  obtain ⟨original, hbase, hconfigured⟩ := exists_base_of_factory? hrecipe h hv
  obtain ⟨min, hmin, hbase⟩ := bind_eq_ok_iff.1 hbase
  obtain ⟨max, hmax, hbase⟩ := bind_eq_ok_iff.1 hbase
  refine ⟨min, max, hmin, hmax, ?_⟩
  rw [hconfigured.check, (eq_bounded_of_length hbase).1]
  rfl

/-- **The length check decides by the numbers it is given.**  It accepts a bound exactly when the
bound is finite, whole and not negative, of any magnitude, and it needs one; and of a value whose
size is below 2⁶³ it says that it is too short, that it is too long or that it is neither, just as
the size stands to the numbers that were given. -/
theorem length_exact [Regex.Engine] (h : factory? "length" = some factory) (options : Options) :
    ((∃ v, factory options = .ok v) ↔
      (options.Gives "min" ∨ options.Gives "max") ∧
      (∀ key ∈ ["min", "max"], ∀ a, options.given? key = some a → ∃ q, a.IsBound q) ∧
      options.WellFormed Settings.commonForms ∧
      ∀ key ∈ options.keys, key ∈ ["min", "max"] ++ Settings.commonKeys) ∧
    (∀ a, options.given? "min" = some a → (¬ ∃ q, a.IsBound q) →
      factory options = .error (.invalidOption "length" "min" (.mistyped .count a))) ∧
    (∀ b, (∀ a, options.given? "min" = some a → ∃ q, a.IsBound q) →
      options.given? "max" = some b → (¬ ∃ q, b.IsBound q) →
      factory options = .error (.invalidOption "length" "max" (.mistyped .count b))) ∧
    ∀ v, factory options = .ok v → ∀ x,
      (∀ slot, v.RefusesFrom x slot → v.judge x = v.fail slot) ∧
      (∀ measure (size : Nat), x.HasSize measure size → size < 2 ^ 63 →
        (v.judge x = .valid ↔ (∀ a, options.Bound "min" a → a ≤ size) ∧
          ∀ b, options.Bound "max" b → (size : ℚ) ≤ b) ∧
        (v.RefusesFrom x measure.tooShortSlot ↔ ∃ a, options.Bound "min" a ∧ (size : ℚ) < a) ∧
        (v.RefusesFrom x measure.tooLongSlot ↔ (∀ a, options.Bound "min" a → a ≤ size) ∧
          ∃ b, options.Bound "max" b ∧ b < size)) ∧
      (v.RefusesFrom x "invalid" ↔ ∀ measure size, ¬ x.HasSize measure size) := by
  refine ⟨exists_factory_length_iff h, fun a hmin ha => ?lower, fun b hmin hmax hb => ?upper,
    fun v hv x => ?decides⟩
  case lower =>
    refine factory_length_eq_error h ?_
    simp only [lengthRecipe, Options.read_of_given?_eq_some hmin, OptionDecoder.count_eq_error ha,
      error_bind]
  case upper =>
    have hread : ∃ min, options.read "length" "min" OptionDecoder.count = .ok min := by
      rw [Options.exists_read_eq_ok_iff]
      intro a ha
      rw [OptionDecoder.exists_count_eq_ok_iff, ← Value.exists_isBound_iff]
      exact hmin a ha
    obtain ⟨min, hmin⟩ := hread
    refine factory_length_eq_error h ?_
    simp only [lengthRecipe, hmin, ok_bind, Options.read_of_given?_eq_some hmax,
      OptionDecoder.count_eq_error hb, error_bind]
  case decides =>
    obtain ⟨min, max, hmin, hmax, hcheck⟩ := exists_stored_of_factory_length h hv
    have hfailure : v.check.failure? x = v.check.failingWith (lengthFailure? min max x) := by
      rw [hcheck]
      rfl
    have hslot (slot : String) : v.RefusesFrom x slot ↔ LengthBreach min max x slot := by
      rw [← lengthFailure?_eq_some_iff]
      exact Validator.refusesFrom_iff_of_failingWith hfailure
    refine ⟨fun slot hrefuses => hrefuses.judge_eq, fun measure size hsize hlimit => ?_,
      (hslot _).trans lengthBreach_invalid_iff⟩
    have hshort := Options.exists_lt_stored_iff hmin hlimit
    have hlong := Options.exists_stored_lt_iff hmax hlimit
    have hkept : (∀ a, options.Bound "min" a → a ≤ size) ↔
        ¬ ∃ n, min = some n ∧ size < n := by
      simp only [hshort, not_exists, not_and, not_lt]
    have hwithin : (∀ b, options.Bound "max" b → (size : ℚ) ≤ b) ↔
        ¬ ∃ n, max = some n ∧ n < size := by
      simp only [hlong, not_exists, not_and, not_lt]
    have hvalid : v.judge x = .valid ↔ lengthFailure? min max x = none := by
      rw [Validator.judge_eq_valid_iff, hfailure]
      exact Option.map_eq_none_iff
    rw [hvalid, hslot, hslot, lengthFailure?_eq_none_iff hsize, lengthBreach_tooShort_iff hsize,
      lengthBreach_tooLong_iff hsize, hkept, hwithin, hshort, hlong]
    exact ⟨Iff.rfl, Iff.rfl, Iff.rfl⟩

section

attribute [local instance] Regex.Engine.standard

/-- A lower bound far beyond what is kept, with an upper bound of negative zero below it; and a
lower bound that is no number. -/
theorem length_exact_beyond_limit :
    ∃ factory, factory? "length" = some factory ∧ ∃ huge : Value, huge.IsBound (2 ^ 70 : Nat) ∧
      (∃ v, factory (.ofWanted [("min", some huge), ("max", some (.number .negZero))]) = .ok v ∧
        v.RefusesFrom (.text "abc") "tooShortString" ∧ v.judge (.text "abc") ≠ .valid ∧
        v.RefusesFrom .null "invalid") ∧
      factory (.ofList [("min", .number .nan)]) =
        .error (.invalidOption "length" "min" (.mistyped .count (.number .nan))) := by
  have hfits : Fits (2 ^ 70 * oneUnits) := by decide +kernel
  have hwhole : (Double.finite false (2 ^ 70 * oneUnits) hfits).toNat? = some (2 ^ 70) := by
    have hmod : 2 ^ 70 * oneUnits % oneUnits = 0 := Nat.mul_mod_left _ _
    rw [Double.toNat?_finite _ hmod, Nat.mul_div_cancel _ oneUnits_pos]
  have hhuge := Value.isBound_natCast_iff.2 ⟨_, rfl, hwhole⟩
  have hzero : Value.IsBound (.number .negZero) (0 : Nat) :=
    Value.isBound_natCast_iff.2 ⟨_, rfl, by decide +kernel⟩
  have hnullish : (Value.number (.finite false (2 ^ 70 * oneUnits) hfits)).isNullish = false := rfl
  generalize Value.number (.finite false (2 ^ 70 * oneUnits) hfits) = huge at hhuge hnullish
  refine ⟨_, rfl, huge, hhuge, ?_, ?_⟩
  · have hspells := Options.spells_ofWanted
      (spellable_bounds hnullish (show (Value.number .negZero).isNullish = false from rfl))
    have hmin : Options.Bound _ "min" (2 ^ 70 : Nat) :=
      ⟨huge, hspells.given _ _ List.mem_cons_self, hhuge⟩
    obtain ⟨v, hv⟩ := exists_factory_length_of_spells rfl hspells hhuge hzero
    obtain ⟨-, -, -, hdecides⟩ := length_exact rfl (.ofWanted _)
    obtain ⟨-, hsizes, -⟩ := hdecides v hv (.text "abc")
    obtain ⟨hvalid, hshort, -⟩ := hsizes _ _ (.text "abc") (by decide)
    have hlow : ((3 : Nat) : ℚ) < (2 ^ 70 : Nat) := Nat.cast_lt.2 (by decide)
    refine ⟨v, hv, hshort.2 ⟨_, hmin, hlow⟩, fun hjudge => ?_, (hdecides v hv .null).2.2.2 nofun⟩
    exact absurd ((hvalid.1 hjudge).1 _ hmin) (not_le.2 hlow)
  · refine (length_exact rfl _).2.1 _ rfl ?_
    rintro ⟨q, _, ⟨⟩, hrational, -⟩
    cases hrational

end

end Builtin

end Vetting
