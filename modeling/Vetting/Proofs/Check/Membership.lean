import Vetting.Proofs.Validator.Verdict
import Vetting.Proofs.Value.Equality
import Vetting.Validator.Builder

/-!
# Lists of values that are let through

A range check of a list and a truth check of two both ask whether a value is equal to one that is
listed.  What they let through is therefore the same when the lists together are the same
(`strictEqual_laws`), and how equality goes decides what that is: it is symmetric and transitive,
but a listed value is let through only if no NaN keeps it from being equal to itself.
-/

namespace Vetting

variable {v : Validator} {values trueValues falseValues : List Value} {x : Value}

namespace Validator

theorem validate_eq_valid_iff_of_oneOf (h : v.check = .range (.oneOf values)) :
    v.validate x = .valid ↔
      (v.allowEmpty = true ∧ x.isEmpty = true) ∨ ∃ y ∈ values, y.strictEqual x = true := by
  have hinline : ¬ v.check.IsInline := by
    rintro ⟨_, hcheck⟩
    cases h.symm.trans hcheck
  have hfailure : (Check.range (.oneOf values)).failure? x =
      (Check.range (.oneOf values)).passIf (values.any fun y => y.strictEqual x) "in" := rfl
  rw [validate_eq_valid_iff, skips_eq hinline, Bool.and_eq_true, h, hfailure,
    Check.passIf_eq_none_iff, List.any_eq_true]
  rfl

theorem validate_eq_valid_iff_of_boolean (h : v.check = .boolean trueValues falseValues) :
    v.validate x = .valid ↔ (v.allowEmpty = true ∧ x.isEmpty = true) ∨
      ∃ y ∈ trueValues ++ falseValues, y.strictEqual x = true := by
  have hinline : ¬ v.check.IsInline := by
    rintro ⟨_, hcheck⟩
    cases h.symm.trans hcheck
  have hfailure : (Check.boolean trueValues falseValues).failure? x =
      (Check.boolean trueValues falseValues).passIf
        ((trueValues.any fun y => y.strictEqual x) || falseValues.any fun y => y.strictEqual x)
        Messages.defaultSlot := rfl
  rw [validate_eq_valid_iff, skips_eq hinline, Bool.and_eq_true, h, hfailure,
    Check.passIf_eq_none_iff, ← List.any_append, List.any_eq_true]
  rfl

end Validator

namespace Value

/-- **The two comparisons are one partial equivalence, in which a value is equal to itself unless
there is a NaN inside of it.  So a range check of a list lets through what a truth check does that
has the list in two parts, and every value of the list that is free of NaN.** -/
theorem strictEqual_laws :
    (∀ a b : Value, a.strictEqual b = (a == b)) ∧
    (∀ a b : Value, a.strictEqual b = b.strictEqual a) ∧
    (∀ a b c : Value, a.strictEqual b = true → b.strictEqual c = true →
      a.strictEqual c = true) ∧
    (∀ a : Value, a.strictEqual a = true ↔ ¬ Within (.number .nan) a) ∧
    ∀ (trueValues falseValues : List Value) (s t : Settings), s.allowEmpty = t.allowEmpty →
      ∀ x : Value,
        ({ Builtin.range (.oneOf (trueValues ++ falseValues)) with settings := s }.validate x =
            .valid ↔
          { Builtin.boolean trueValues falseValues with settings := t }.validate x = .valid) ∧
        (x ∈ trueValues ++ falseValues → ¬ Within (.number .nan) x →
          { Builtin.range (.oneOf (trueValues ++ falseValues)) with settings := s }.validate x =
            .valid ∧
          { Builtin.boolean trueValues falseValues with settings := t }.validate x = .valid) := by
  refine ⟨fun a b => strictEqual_eq_beq, fun a b => strictEqual_comm,
    fun a b c => strictEqual_trans, fun a => strictEqual_self_iff, ?lists⟩
  case lists =>
    intro trueValues falseValues s t hflag x
    have hrange : { Builtin.range (.oneOf (trueValues ++ falseValues)) with
        settings := s }.validate x = .valid ↔ (s.allowEmpty = true ∧ x.isEmpty = true) ∨
          ∃ y ∈ trueValues ++ falseValues, y.strictEqual x = true :=
      Validator.validate_eq_valid_iff_of_oneOf rfl
    have htruth : { Builtin.boolean trueValues falseValues with
        settings := t }.validate x = .valid ↔ (t.allowEmpty = true ∧ x.isEmpty = true) ∨
          ∃ y ∈ trueValues ++ falseValues, y.strictEqual x = true :=
      Validator.validate_eq_valid_iff_of_boolean rfl
    rw [hrange, htruth, hflag]
    refine ⟨Iff.rfl, fun hmem hnan => ?_⟩
    have hlisted : ∃ y ∈ trueValues ++ falseValues, y.strictEqual x = true :=
      ⟨x, hmem, strictEqual_self_iff.2 hnan⟩
    exact ⟨Or.inr hlisted, Or.inr hlisted⟩

/-- An instance of a class with a list inside, once with the one zero and once with the other. -/
theorem strictEqual_laws_zeros :
    let point (x : Double) : Value := .object (.instanceOf ⟨"Point", ["Object"]⟩)
      [("at", .date ⟨0, 0⟩), ("x", .array [.number x, .undefined])]
    (point .zero).strictEqual (point .negZero) = true ∧
    (point .negZero).strictEqual (point .negZero) = true ∧
    (Builtin.range (.oneOf ([point .zero] ++ [point .negZero]))).validate (point .negZero) =
      .valid ∧
    (Builtin.boolean [point .zero] [point .negZero]).validate (point .negZero) = .valid := by
  intro point
  obtain ⟨-, hsymm, htrans, hself, hlists⟩ := strictEqual_laws
  have hzeros : (point .zero).strictEqual (point .negZero) = true := by decide +kernel
  have hnegZero : (point .negZero).strictEqual (point .negZero) = true :=
    htrans _ (point .zero) _ (by rw [hsymm, hzeros]) hzeros
  have hmem : point .negZero ∈ [point .zero] ++ [point .negZero] :=
    List.mem_append_right _ (List.mem_singleton_self _)
  have hlisted := hlists [point .zero] [point .negZero] (Builtin.range (.oneOf [])).settings
    (Builtin.boolean [] []).settings rfl (point .negZero)
  exact ⟨hzeros, hnegZero, hlisted.2 hmem ((hself _).1 hnegZero)⟩

end Value

end Vetting
