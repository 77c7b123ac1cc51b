import Vetting.Proofs.Value.Equality
import Vetting.Proofs.Value.TextOrder

/-!
# The order of values

Values are ordered in three separate lines: the numbers other than NaN, the texts, and the dates.
`Value.Compared` says so with one constructor for each line and the order of its members, and what
holds of the comparison is read off there, one line at a time:

* it has an answer exactly for two values of one line (`Value.exists_looseCompare?_iff`);
* it reverses when its sides are swapped (`Value.looseCompare?_swap`);
* it is transitive (`Value.AtMost.trans`), and strictly so if one of the two steps is strict;
* it says that two values are equal when they are equal (`Value.looseCompare?_eq_eq_iff`).
-/

namespace Vetting

open Std

/-! ## The lines -/

namespace Double

variable {x y : Double}

theorem exists_rank?_iff : (∃ i, x.rank? = some i) ↔ x ≠ .nan := by
  cases x with
  | nan => exact iff_of_false (fun ⟨_, h⟩ => nomatch h) fun h => h rfl
  | infinite s => exact iff_of_true ⟨_, rfl⟩ nofun
  | finite s u fits => exact iff_of_true ⟨_, rfl⟩ nofun

theorem compare?_eq_some_iff {o : Ordering} :
    x.compare? y = some o ↔
      ∃ i j, x.rank? = some i ∧ y.rank? = some j ∧ compare i j = o := by
  rw [compare?]
  cases x.rank? with
  | none => exact iff_of_false (fun h => nomatch h) fun ⟨_, _, h, _⟩ => nomatch h
  | some i =>
    cases y.rank? with
    | none => exact iff_of_false (fun h => nomatch h) fun ⟨_, _, _, h, _⟩ => nomatch h
    | some j =>
      constructor
      · intro h
        exact ⟨i, j, rfl, rfl, Option.some.inj h⟩
      · rintro ⟨_, _, ⟨⟩, ⟨⟩, rfl⟩
        rfl

end Double

namespace Instant

instance : TransCmp order :=
  inferInstanceAs (TransCmp (compareLex (compareOn seconds) (compareOn nanos)))

instance : LawfulEqCmp order where
  eq_of_compare {t u} h := by
    obtain ⟨hseconds, hnanos⟩ := Ordering.then_eq_eq.1 h
    cases t
    cases u
    rw [mk.injEq]
    exact ⟨LawfulEqOrd.eq_of_compare hseconds, LawfulEqOrd.eq_of_compare hnanos⟩

end Instant

namespace Value

variable {a b c : Value} {o : Ordering}

/-- Two values of one line: two numbers, neither of which is NaN, two texts or two dates. -/
inductive Comparable : Value → Value → Prop
  | numbers {x y : Double} (hx : x ≠ .nan) (hy : y ≠ .nan) : Comparable (.number x) (.number y)
  | texts (s t : String) : Comparable (.text s) (.text t)
  | dates (t u : Instant) : Comparable (.date t) (.date u)

/-- Two values of one line and how they stand to each other. -/
inductive Compared : Value → Value → Ordering → Prop
  | numbers {x y : Double} {i j : Int} (hx : x.rank? = some i) (hy : y.rank? = some j) :
      Compared (.number x) (.number y) (compare i j)
  | texts (s t : String) : Compared (.text s) (.text t) (compare s t)
  | dates (t u : Instant) : Compared (.date t) (.date u) (t.order u)

theorem looseCompare?_eq_some_iff : a.looseCompare? b = some o ↔ Compared a b o := by
  fun_cases looseCompare? a b with
  | case1 x y =>
    rw [Double.compare?_eq_some_iff]
    constructor
    · rintro ⟨i, j, hx, hy, rfl⟩
      exact .numbers hx hy
    · rintro ⟨hx, hy⟩
      exact ⟨_, _, hx, hy, rfl⟩
  | case2 s t =>
    constructor
    · rintro ⟨⟩
      exact .texts s t
    · rintro ⟨⟩
      rfl
  | case3 t u =>
    constructor
    · rintro ⟨⟩
      exact .dates t u
    · rintro ⟨⟩
      rfl
  | case4 =>
    -- the two values are on different lines, or one of them is on none
    refine iff_of_false (fun h => nomatch h) fun h => ?_
    cases h <;> grind

/-- **Values are compared exactly within the lines.** -/
theorem exists_looseCompare?_iff : (∃ o, a.looseCompare? b = some o) ↔ Comparable a b := by
  simp only [looseCompare?_eq_some_iff]
  constructor
  · rintro ⟨o, h⟩
    cases h with
    | numbers hx hy =>
      exact .numbers (Double.exists_rank?_iff.1 ⟨_, hx⟩) (Double.exists_rank?_iff.1 ⟨_, hy⟩)
    | texts s t => exact .texts s t
    | dates t u => exact .dates t u
  · intro h
    cases h with
    | numbers hx hy =>
      obtain ⟨i, hi⟩ := Double.exists_rank?_iff.2 hx
      obtain ⟨j, hj⟩ := Double.exists_rank?_iff.2 hy
      exact ⟨_, .numbers hi hj⟩
    | texts s t => exact ⟨_, .texts s t⟩
    | dates t u => exact ⟨_, .dates t u⟩

theorem Comparable.symm (h : Comparable a b) : Comparable b a := by
  cases h with
  | numbers hx hy => exact .numbers hy hx
  | texts s t => exact .texts t s
  | dates t u => exact .dates u t

/-! ## The laws -/

theorem Compared.swap (h : Compared a b o) : Compared b a o.swap := by
  cases h with
  | numbers hx hy =>
    rw [← OrientedOrd.eq_swap]
    exact .numbers hy hx
  | texts s t =>
    rw [← OrientedOrd.eq_swap]
    exact .texts t s
  | dates t u =>
    have hswap : (t.order u).swap = u.order t := OrientedCmp.eq_swap.symm
    rw [hswap]
    exact .dates u t

/-- **The comparison reverses when its sides are swapped**, also where it has no answer. -/
theorem looseCompare?_swap (a b : Value) :
    b.looseCompare? a = (a.looseCompare? b).map Ordering.swap := by
  refine Option.ext fun o => ?_
  rw [Option.map_eq_some_iff, looseCompare?_eq_some_iff]
  simp only [looseCompare?_eq_some_iff]
  constructor
  · intro h
    exact ⟨o.swap, h.swap, Ordering.swap_swap⟩
  · rintro ⟨_, h, rfl⟩
    exact h.swap

/-- **Two values compare as equal when they are equal.** -/
theorem looseCompare?_eq_eq_iff (h : Comparable a b) :
    a.looseCompare? b = some .eq ↔ a.strictEqual b = true := by
  cases h with
  | @numbers x y hx hy =>
    rw [looseCompare?, Double.compare?_eq_some_iff, strictEqual, Double.beq_iff]
    simp only [Std.compare_eq_iff_eq]
    constructor
    · rintro ⟨i, _, hi, hj, rfl⟩
      exact ⟨i, hi, hj⟩
    · rintro ⟨i, hi, hj⟩
      exact ⟨i, i, hi, hj, rfl⟩
  | texts s t =>
    rw [looseCompare?, Option.some_inj, Std.compare_eq_iff_eq, strictEqual, beq_iff_eq]
  | dates t u =>
    have heq : t.order u = .eq ↔ t = u := LawfulEqCmp.compare_eq_iff_eq
    rw [looseCompare?, Option.some_inj, heq, strictEqual, beq_iff_eq]

/-- A value comes before another one or stands where it stands. -/
def AtMost (a b : Value) : Prop := a.looseCompare? b = some .lt ∨ a.looseCompare? b = some .eq

/-- A value comes before another one. -/
def Below (a b : Value) : Prop := a.looseCompare? b = some .lt

instance : Decidable (AtMost a b) := inferInstanceAs (Decidable (_ ∨ _))

instance : Decidable (Below a b) := inferInstanceAs (Decidable (_ = _))

theorem atMost_iff : AtMost a b ↔ ∃ o, Compared a b o ∧ o.isLE = true := by
  rw [AtMost, looseCompare?_eq_some_iff, looseCompare?_eq_some_iff]
  constructor
  · rintro (h | h)
    · exact ⟨.lt, h, rfl⟩
    · exact ⟨.eq, h, rfl⟩
  · rintro ⟨o, h, ho⟩
    cases o with
    | lt => exact Or.inl h
    | eq => exact Or.inr h
    | gt => cases ho

theorem AtMost.comparable (h : AtMost a b) : Comparable a b := by
  rcases h with h | h
  · exact exists_looseCompare?_iff.1 ⟨_, h⟩
  · exact exists_looseCompare?_iff.1 ⟨_, h⟩

theorem Below.atMost (h : Below a b) : AtMost a b := Or.inl h

/-- What stands anywhere is at most itself. -/
theorem Comparable.atMost_self (h : Comparable a b) : AtMost a a := by
  have hself : Comparable a a ∧ a.strictEqual a = true := by
    cases h with
    | numbers hx _ => exact ⟨.numbers hx hx, Double.beq_self_iff.2 hx⟩
    | texts s _ => exact ⟨.texts s s, beq_self_eq_true s⟩
    | dates t _ => exact ⟨.dates t t, beq_self_eq_true t⟩
  exact Or.inr ((looseCompare?_eq_eq_iff hself.1).2 hself.2)

/-- **In a line, to be below a value is to miss being at least that value.** -/
theorem below_iff_not_atMost (h : Comparable a b) : Below b a ↔ ¬ AtMost a b := by
  obtain ⟨o, ho⟩ := exists_looseCompare?_iff.2 h
  rw [Below, AtMost, looseCompare?_swap, ho, Option.map_some, Option.some_inj, Option.some_inj,
    Option.some_inj]
  cases o <;> decide

theorem AtMost.total (h : Comparable a b) : AtMost a b ∨ AtMost b a := by
  by_cases hab : AtMost a b
  · exact Or.inl hab
  · exact Or.inr ((below_iff_not_atMost h).2 hab).atMost

/-- One step after another in a line, and whether the two of them together are strict. -/
theorem Compared.trans {p : Ordering} (hab : Compared a b o) (hbc : Compared b c p)
    (ho : o.isLE = true) (hp : p.isLE = true) :
    ∃ q, Compared a c q ∧ q.isLE = true ∧ (o = .lt ∨ p = .lt → q = .lt) := by
  have hline {α : Type} {cmp : α → α → Ordering} [TransCmp cmp] {x y z : α}
      (hxy : (cmp x y).isLE = true) (hyz : (cmp y z).isLE = true) :
      (cmp x z).isLE = true ∧ (cmp x y = .lt ∨ cmp y z = .lt → cmp x z = .lt) := by
    refine ⟨TransCmp.isLE_trans hxy hyz, ?_⟩
    rintro (h | h)
    · exact TransCmp.lt_of_lt_of_isLE h hyz
    · exact TransCmp.lt_of_isLE_of_lt hxy h
  cases hab with
  | numbers hx hy =>
    cases hbc with
    | numbers hy' hz =>
      obtain rfl := Option.some.inj (hy.symm.trans hy')
      exact ⟨_, .numbers hx hz, hline ho hp⟩
  | texts s t =>
    cases hbc with
    | texts _ u => exact ⟨_, .texts s u, hline ho hp⟩
  | dates t u =>
    cases hbc with
    | dates _ w => exact ⟨_, .dates t w, hline ho hp⟩

/-- **The order is transitive**, and it is strict over two steps if it is over one of them. -/
theorem AtMost.trans (hab : AtMost a b) (hbc : AtMost b c) :
    AtMost a c ∧ (Below a b ∨ Below b c → Below a c) := by
  obtain ⟨o, ho, hole⟩ := atMost_iff.1 hab
  obtain ⟨p, hp, hple⟩ := atMost_iff.1 hbc
  obtain ⟨q, hq, hqle, hstrict⟩ := ho.trans hp hole hple
  refine ⟨atMost_iff.2 ⟨q, hq, hqle⟩, ?_⟩
  rw [Below, Below, Below, looseCompare?_eq_some_iff.2 ho, looseCompare?_eq_some_iff.2 hp,
    looseCompare?_eq_some_iff.2 hq, Option.some_inj, Option.some_inj, Option.some_inj]
  exact hstrict

end Value

end Vetting
