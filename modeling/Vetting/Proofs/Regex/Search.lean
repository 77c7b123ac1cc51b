import Mathlib.Data.Nat.Bitwise
import Vetting.Regex.Search

/-!
# What a search finds

A search runs backwards over sets of positions.  Here it is tied to the ways forward:
`Expr.Leads` says that a placed expression can lead from one position to another, one clause for
each kind of expression, and `Expr.contains_before` that `Expr.before` gives exactly the positions
from which a way leads to the target.

* `Steps` relates a function on sets to a relation on positions.  Repetitions are built from one
  step by `iterate`, `withinSteps` and `anySteps`, and each of them is related to as many rounds of
  the relation.
* `anySteps` is the one whose rounds are bounded by fuel.  It looks at new positions only, which is
  enough because what leads to an old one has been seen (`contains_closure`).  The fuel is enough
  because a way never goes back: rounds that stay where they are can be left out, so as many rounds
  suffice as there are positions in between (`exists_rounds_le`).
-/

namespace Vetting

namespace Regex

namespace Positions

variable {s t : Positions} {i n : Nat}

@[simp] theorem contains_or : (s ||| t : Positions).contains i ↔ s.contains i ∨ t.contains i := by
  rw [contains, Nat.testBit_or, Bool.or_eq_true]
  rfl

@[simp] theorem contains_and : (s &&& t : Positions).contains i ↔ s.contains i ∧ t.contains i := by
  rw [contains, Nat.testBit_and, Bool.and_eq_true]
  rfl

@[simp] theorem contains_diff : (diff s t).contains i ↔ s.contains i ∧ ¬ t.contains i := by
  rw [contains, diff, Nat.testBit_xor, Nat.testBit_and]
  change _ ↔ s.testBit i = true ∧ ¬ t.testBit i = true
  cases s.testBit i <;> cases t.testBit i <;> decide

@[simp] theorem contains_back : s.back.contains i ↔ s.contains (i + 1) := by
  rw [contains, back, Nat.testBit_shiftRight, Nat.add_comm]
  rfl

@[simp] theorem contains_upTo : (upTo n).contains i ↔ i ≤ n := by
  have hpow : Nat.pow 2 (n + 1) = 2 ^ (n + 1) := rfl
  rw [contains, upTo, hpow, Nat.testBit_two_pow_sub_one, decide_eq_true_iff, Nat.lt_succ_iff]

@[simp] theorem contains_single : (single n).contains i ↔ i = n := by
  have hpow : Nat.pow 2 n = 2 ^ n := rfl
  rw [contains, single, hpow, Nat.testBit_two_pow, decide_eq_true_iff, eq_comm]

@[simp] theorem contains_beyond : (s.beyond n).contains i ↔ s.contains i ∧ n < i := by
  rw [contains, beyond, Nat.testBit_shiftLeft, Nat.testBit_shiftRight, Bool.and_eq_true,
    decide_eq_true_iff, ge_iff_le, Nat.succ_le_iff]
  constructor
  · rintro ⟨hlt, hi⟩
    rw [Nat.add_sub_cancel' hlt] at hi
    exact ⟨hi, hlt⟩
  · rintro ⟨hi, hlt⟩
    rw [Nat.add_sub_cancel' hlt]
    exact ⟨hlt, hi⟩

@[simp] theorem contains_ofBools {bs : List Bool} :
    (ofBools bs).contains i ↔ bs[i]? = some true := by
  induction bs generalizing i with
  | nil =>
    rw [ofBools, contains, Nat.zero_testBit]
    exact iff_of_false Bool.false_ne_true fun h => nomatch h
  | cons b rest ih =>
    have hbit : ofBools (b :: rest) = Nat.bit b (ofBools rest) := by
      rw [ofBools, Nat.bit_val]
      cases b <;> rfl
    cases i with
    | zero =>
      rw [contains, hbit, Nat.testBit_bit_zero, List.getElem?_cons_zero, Option.some_inj]
    | succ i =>
      rw [contains, hbit, Nat.testBit_bit_succ, List.getElem?_cons_succ, ← ih]
      rfl

theorem leastFrom_eq_none_iff {fuel : Nat} :
    s.leastFrom fuel n = none ↔ ∀ i, n ≤ i → i < n + fuel → ¬ s.contains i := by
  induction fuel generalizing n with
  | zero => exact iff_of_true rfl fun i hle hlt => absurd hlt (Nat.not_lt_of_le hle)
  | succ fuel ih =>
    rw [leastFrom]
    split
    · rename_i hn
      exact iff_of_false nofun fun h => h n (Nat.le_refl n) (by omega) hn
    · rename_i hn
      rw [ih]
      constructor
      · intro h i hle hlt
        rcases Nat.eq_or_lt_of_le hle with rfl | hlater
        · exact hn
        · exact h i hlater (by omega)
      · exact fun h i hle hlt => h i (by omega) (by omega)

theorem contains_of_leastFrom {fuel : Nat} (h : s.leastFrom fuel n = some i) : s.contains i := by
  induction fuel generalizing n with
  | zero => cases h
  | succ fuel ih =>
    rw [leastFrom] at h
    split at h
    · rename_i hn
      exact Option.some.inj h ▸ hn
    · exact ih h

@[simp] theorem not_contains_zero : ¬ (0 : Positions).contains i := by
  rw [contains, Nat.zero_testBit]
  exact Bool.false_ne_true

theorem ne_zero_iff : s ≠ 0 ↔ ∃ i, s.contains i := by
  constructor
  · exact Nat.exists_testBit_of_ne_zero
  · rintro ⟨i, hi⟩ rfl
    exact not_contains_zero hi

/-- No member lies above the highest. -/
theorem le_log2_of_contains (h : s.contains i) : i ≤ s.log2 := by
  have hpow : 2 ^ i ≤ s := Nat.ge_two_pow_of_testBit h
  exact (Nat.le_log2 (Nat.pos_of_ne_zero (ne_zero_iff.2 ⟨i, h⟩)).ne').2 hpow

end Positions

/-! ## Steps and rounds -/

/-- Exactly `n` rounds of a relation. -/
def Rounds (R : Nat → Nat → Prop) : Nat → Nat → Nat → Prop
  | 0, i, j => i = j
  | n + 1, i, j => ∃ k, R i k ∧ Rounds R n k j

variable {R : Nat → Nat → Prop} {step : Positions → Positions} {i j k m n : Nat}

theorem rounds_add : Rounds R (m + n) i j ↔ ∃ k, Rounds R m i k ∧ Rounds R n k j := by
  induction m generalizing i with
  | zero =>
    rw [Nat.zero_add]
    exact ⟨fun h => ⟨i, rfl, h⟩, fun ⟨k, hk, h⟩ => (hk : i = k) ▸ h⟩
  | succ m ih =>
    rw [Nat.succ_add]
    constructor
    · rintro ⟨l, hl, h⟩
      obtain ⟨k, hlk, hkj⟩ := ih.1 h
      exact ⟨k, ⟨l, hl, hlk⟩, hkj⟩
    · rintro ⟨k, ⟨l, hl, hlk⟩, hkj⟩
      exact ⟨l, hl, ih.2 ⟨k, hlk, hkj⟩⟩

@[simp] theorem rounds_one : Rounds R 1 i j ↔ R i j :=
  ⟨fun ⟨_, h, hk⟩ => (hk : _ = j) ▸ h, fun h => ⟨j, h, rfl⟩⟩

/-- The last round taken off. -/
theorem rounds_succ : Rounds R (n + 1) i j ↔ ∃ k, Rounds R n i k ∧ R k j := by
  rw [rounds_add]
  exact exists_congr fun k => and_congr Iff.rfl rounds_one

/-- The function gives the positions from which one step leads to the target. -/
def Steps (step : Positions → Positions) (R : Nat → Nat → Prop) : Prop :=
  ∀ target i, (step target).contains i ↔ ∃ j, R i j ∧ target.contains j

theorem Steps.iterate (h : Steps step R) (n : Nat) : Steps (iterate step n) (Rounds R n) := by
  induction n with
  | zero =>
    intro target i
    exact ⟨fun hi => ⟨i, rfl, hi⟩, fun ⟨j, hj, hi⟩ => (hj : i = j) ▸ hi⟩
  | succ n ih =>
    intro target i
    rw [Regex.iterate, ih]
    simp only [h target, rounds_succ]
    constructor
    · rintro ⟨k, hik, j, hkj, hj⟩
      exact ⟨j, ⟨k, hik, hkj⟩, hj⟩
    · rintro ⟨j, ⟨k, hik, hkj⟩, hj⟩
      exact ⟨k, hik, j, hkj, hj⟩

theorem Steps.withinSteps (h : Steps step R) (n : Nat) :
    Steps (fun target => withinSteps step target n) (fun i j => ∃ m ≤ n, Rounds R m i j) := by
  induction n with
  | zero =>
    intro target i
    constructor
    · exact fun hi => ⟨i, ⟨0, Nat.le_refl 0, rfl⟩, hi⟩
    · rintro ⟨j, ⟨m, hm, hij⟩, hj⟩
      obtain rfl := Nat.le_zero.1 hm
      exact (hij : i = j) ▸ hj
  | succ n ih =>
    intro target i
    have hsucc : Regex.withinSteps step target (n + 1) =
        target ||| step (Regex.withinSteps step target n) := rfl
    dsimp only
    rw [hsucc, Positions.contains_or, h]
    constructor
    · rintro (hi | ⟨k, hik, hk⟩)
      · exact ⟨i, ⟨0, Nat.zero_le _, rfl⟩, hi⟩
      · obtain ⟨j, ⟨m, hm, hkj⟩, hj⟩ := (ih target k).1 hk
        exact ⟨j, ⟨m + 1, Nat.succ_le_succ hm, k, hik, hkj⟩, hj⟩
    · rintro ⟨j, ⟨_ | m, hm, hij⟩, hj⟩
      · exact Or.inl ((hij : i = j) ▸ hj)
      · obtain ⟨k, hik, hkj⟩ := hij
        exact Or.inr ⟨k, hik, (ih target k).2 ⟨j, ⟨m, Nat.le_of_succ_le_succ hm, hkj⟩, hj⟩⟩

/-- **As long as every way to a position reached has been followed back, up to the positions
reached last, as many more rounds are found as there is fuel.** -/
theorem contains_closure (h : Steps step R) (fuel : Nat) {reached frontier : Positions}
    (hsub : ∀ i, frontier.contains i → reached.contains i)
    (hseen : ∀ i, (step reached).contains i → reached.contains i ∨ (step frontier).contains i) :
    (closure step fuel reached frontier).contains i ↔
      ∃ n ≤ fuel, ∃ j, Rounds R n i j ∧ reached.contains j := by
  induction fuel generalizing i reached frontier with
  | zero =>
    constructor
    · exact fun hi => ⟨0, Nat.le_refl 0, i, rfl, hi⟩
    · rintro ⟨n, hn, j, hij, hj⟩
      obtain rfl := Nat.le_zero.1 hn
      exact (hij : i = j) ▸ hj
  | succ fuel ih =>
    rw [closure]
    split
    · rename_i hfrontier
      -- nothing was reached last, so every step from the positions reached has been taken
      have hclosed : ∀ i, (step reached).contains i → reached.contains i := by
        intro i hi
        rcases hseen i hi with hi | hi
        · exact hi
        · obtain ⟨j, -, hj⟩ := (h frontier i).1 hi
          rw [hfrontier] at hj
          exact absurd hj Positions.not_contains_zero
      constructor
      · exact fun hi => ⟨0, Nat.zero_le _, i, rfl, hi⟩
      · rintro ⟨n, -, j, hij, hj⟩
        clear ih
        induction n generalizing i with
        | zero => exact (hij : i = j) ▸ hj
        | succ n ih =>
          obtain ⟨k, hik, hkj⟩ := hij
          exact hclosed i ((h reached i).2 ⟨k, hik, ih hkj⟩)
    · have hadded : ∀ i, (reached ||| (step frontier).diff reached : Positions).contains i ↔
          reached.contains i ∨ (step frontier).contains i := by
        intro i
        rw [Positions.contains_or, Positions.contains_diff]
        by_cases hi : reached.contains i
        · exact iff_of_true (Or.inl hi) (Or.inl hi)
        · rw [and_iff_left hi]
      dsimp only
      rw [ih (fun i hi => Positions.contains_or.2 (Or.inr hi)) fun i hi => ?_]
      · constructor
        · rintro ⟨n, hn, j, hij, hj⟩
          rcases (hadded j).1 hj with hj | hj
          · exact ⟨n, Nat.le_succ_of_le hn, j, hij, hj⟩
          · obtain ⟨k, hjk, hk⟩ := (h frontier j).1 hj
            exact ⟨n + 1, Nat.succ_le_succ hn, k, rounds_succ.2 ⟨j, hij, hjk⟩, hsub k hk⟩
        · rintro ⟨_ | n, hn, j, hij, hj⟩
          · exact ⟨0, Nat.zero_le _, j, hij, (hadded j).2 (Or.inl hj)⟩
          · obtain ⟨k, hik, hkj⟩ := rounds_succ.1 hij
            exact ⟨n, Nat.le_of_succ_le_succ hn, k, hik,
              (hadded k).2 (hseen k ((h reached k).2 ⟨j, hkj, hj⟩))⟩
      · obtain ⟨j, hij, hj⟩ := (h _ i).1 hi
        rcases Positions.contains_or.1 hj with hj | hj
        · exact Or.inl ((hadded i).2 (hseen i ((h reached i).2 ⟨j, hij, hj⟩)))
        · exact Or.inr ((h _ i).2 ⟨j, hij, hj⟩)

/-- Rounds that stay where they are can be left out. -/
theorem exists_rounds_le (hle : ∀ i j, R i j → i ≤ j) (h : Rounds R n i j) :
    i ≤ j ∧ ∃ m ≤ j - i, Rounds R m i j := by
  induction n generalizing i with
  | zero => exact ⟨Nat.le_of_eq h, 0, Nat.zero_le _, h⟩
  | succ n ih =>
    obtain ⟨k, hik, hkj⟩ := h
    obtain ⟨hle', m, hm, hrounds⟩ := ih hkj
    have hik' := hle i k hik
    refine ⟨Nat.le_trans hik' hle', ?_⟩
    rcases Nat.eq_or_lt_of_le hik' with rfl | hlt
    · exact ⟨m, hm, hrounds⟩
    · exact ⟨m + 1, by omega, k, hik, hrounds⟩

theorem Steps.anySteps (h : Steps step R) (hle : ∀ i j, R i j → i ≤ j) :
    Steps (anySteps step) (fun i j => ∃ n, Rounds R n i j) := by
  intro target i
  rw [Regex.anySteps, contains_closure h _ (fun _ hi => hi) fun _ hi => Or.inr hi]
  constructor
  · rintro ⟨n, -, j, hij, hj⟩
    exact ⟨j, ⟨n, hij⟩, hj⟩
  · rintro ⟨j, ⟨n, hij⟩, hj⟩
    obtain ⟨-, m, hm, hrounds⟩ := exists_rounds_le hle hij
    have hj' := Positions.le_log2_of_contains hj
    exact ⟨m, by omega, j, hrounds, hj⟩

/-! ## Where an expression leads -/

/-- A number of rounds that a repetition may have: the minimum, and not more beyond it than the
maximum allows. -/
def Allowed (min : Nat) (max : Option Nat) (n : Nat) : Prop :=
  min ≤ n ∧ ∀ m, max = some m → n - min ≤ m - min

namespace Expr

/-- An expression can lead from one position to another. -/
def Leads : Expr Positions Positions → Nat → Nat → Prop
  | .empty, i, j => i = j
  | .chars c, i, j => c.contains i ∧ j = i + 1
  | .look l, i, j => l.contains i ∧ i = j
  | .seq a b, i, j => ∃ k, a.Leads i k ∧ b.Leads k j
  | .alt a b, i, j => a.Leads i j ∨ b.Leads i j
  | .rep body min max _, i, j => ∃ n, Allowed min max n ∧ Rounds body.Leads n i j
  | .group _ body, i, j => body.Leads i j

theorem le_of_leads {e : Expr Positions Positions} (h : e.Leads i j) : i ≤ j := by
  induction e generalizing i j with
  | empty => exact Nat.le_of_eq h
  | chars c => exact h.2 ▸ Nat.le_succ i
  | look l => exact Nat.le_of_eq h.2
  | seq a b iha ihb =>
    obtain ⟨k, ha, hb⟩ := h
    exact Nat.le_trans (iha ha) (ihb hb)
  | alt a b iha ihb => exact h.elim iha ihb
  | rep body min max greedy ih =>
    obtain ⟨n, -, hn⟩ := h
    exact (exists_rounds_le (fun _ _ => ih) hn).1
  | group index body ih => exact ih h

/-- **A search finds exactly the positions from which a way leads to the target.** -/
theorem contains_before (e : Expr Positions Positions) : Steps e.before e.Leads := by
  induction e with
  | empty => exact fun target i => ⟨fun hi => ⟨i, rfl, hi⟩, fun ⟨j, hj, hi⟩ => (hj : i = j) ▸ hi⟩
  | chars c =>
    intro target i
    rw [before, Positions.contains_and, Positions.contains_back]
    constructor
    · rintro ⟨hi, hc⟩
      exact ⟨i + 1, ⟨hc, rfl⟩, hi⟩
    · rintro ⟨_, ⟨hc, rfl⟩, hi⟩
      exact ⟨hi, hc⟩
  | look l =>
    intro target i
    rw [before, Positions.contains_and]
    constructor
    · rintro ⟨hi, hl⟩
      exact ⟨i, ⟨hl, rfl⟩, hi⟩
    · rintro ⟨_, ⟨hl, rfl⟩, hi⟩
      exact ⟨hi, hl⟩
  | seq a b iha ihb =>
    intro target i
    rw [before, iha]
    simp only [ihb target]
    constructor
    · rintro ⟨k, ha, j, hb, hj⟩
      exact ⟨j, ⟨k, ha, hb⟩, hj⟩
    · rintro ⟨j, ⟨k, ha, hb⟩, hj⟩
      exact ⟨k, ha, j, hb, hj⟩
  | alt a b iha ihb =>
    intro target i
    rw [before, Positions.contains_or, iha, ihb, ← exists_or]
    exact exists_congr fun j => or_and_right.symm
  | rep body min max greedy ih =>
    intro target i
    cases max with
    | none =>
      rw [before, ih.iterate min]
      simp only [ih.anySteps (fun _ _ => le_of_leads) target]
      constructor
      · rintro ⟨k, hik, j, ⟨n, hkj⟩, hj⟩
        exact ⟨j, ⟨min + n, ⟨Nat.le_add_right _ _, fun _ h => nomatch h⟩,
          rounds_add.2 ⟨k, hik, hkj⟩⟩, hj⟩
      · rintro ⟨j, ⟨n, ⟨hmin, -⟩, hij⟩, hj⟩
        obtain ⟨m, rfl⟩ := Nat.exists_eq_add_of_le hmin
        obtain ⟨k, hik, hkj⟩ := rounds_add.1 hij
        exact ⟨k, hik, j, ⟨m, hkj⟩, hj⟩
    | some bound =>
      rw [before, ih.iterate min]
      simp only [ih.withinSteps (bound - min) target]
      constructor
      · rintro ⟨k, hik, j, ⟨n, hn, hkj⟩, hj⟩
        refine ⟨j, ⟨min + n, ⟨Nat.le_add_right _ _, ?_⟩, rounds_add.2 ⟨k, hik, hkj⟩⟩, hj⟩
        rintro _ ⟨⟩
        rwa [Nat.add_sub_cancel_left]
      · rintro ⟨j, ⟨n, ⟨hmin, hmax⟩, hij⟩, hj⟩
        obtain ⟨m, rfl⟩ := Nat.exists_eq_add_of_le hmin
        obtain ⟨k, hik, hkj⟩ := rounds_add.1 hij
        have hm := hmax bound rfl
        rw [Nat.add_sub_cancel_left] at hm
        exact ⟨k, hik, j, ⟨m, hm, hkj⟩, hj⟩
  | group index body ih => exact ih

end Expr

end Regex

end Vetting
