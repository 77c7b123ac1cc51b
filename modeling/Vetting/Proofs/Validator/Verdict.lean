import Vetting.Proofs.Dict
import Vetting.Validator.Basic

/-!
# What a verdict consists of

A validator that refuses a value does so with the message of a slot.  Which slot it is, and what the
tokens of its template stand for, is up to the check alone; the settings only say whether the check
is asked at all and what the template reads.  `Validator.FailsFrom` keeps the two apart, and
`Validator.validate_eq_invalid_iff` puts them together again.

* `Check.slots` are the slots a check can fail with.  `LengthBreach` and `NumberBreach` tell for the
  two checks with bounds which one it is: a slot that speaks of a bound needs that bound to be set.
* `Validator.Worded`: there is a template in each of these slots.  Changing the settings of a
  validator, once or many times, takes no template away, so a worded validator stays worded
  (`Validator.Worded.changeAll`).

Predicates of the user's are left out throughout.  They bring their own messages and look at no
settings.
-/

namespace Vetting

/-! ## Broken bounds -/

/-- The slot of the bound on its size that a value breaks first.  The lower bound comes first, and
a value without a size breaks both. -/
inductive LengthBreach (min max : Option Nat) (x : Value) : String → Prop
  | unsized (h : Measure.of? x = none) : LengthBreach min max x "invalid"
  | tooShort {measure : Measure} {size n : Nat} (hsize : Measure.of? x = some (measure, size))
      (hmin : min = some n) (h : size < n) : LengthBreach min max x measure.tooShortSlot
  | tooLong {measure : Measure} {size n : Nat} (hsize : Measure.of? x = some (measure, size))
      (hlong : ∀ m, min = some m → m ≤ size) (hmax : max = some n) (h : n < size) :
      LengthBreach min max x measure.tooLongSlot

/-- The slot of the bound that a number breaks first; what is no number breaks both. -/
inductive NumberBreach (min max : Option Double) : Value → String → Prop
  | invalid {x : Value} (h : ∀ y, x = .number y → y.isNaN = true) :
      NumberBreach min max x "invalid"
  | tooSmall {y bound : Double} (hy : y.isNaN = false) (hmin : min = some bound)
      (h : y.lt bound = true) : NumberBreach min max (.number y) "tooSmall"
  | tooLarge {y bound : Double} (hy : y.isNaN = false)
      (hlarge : ∀ m, min = some m → y.lt m = false) (hmax : max = some bound)
      (h : bound.lt y = true) : NumberBreach min max (.number y) "tooLarge"

theorem lengthBreach_of_lengthFailure? {min max : Option Nat} {x : Value} {slot : String}
    (h : lengthFailure? min max x = some slot) : LengthBreach min max x slot := by
  rw [lengthFailure?] at h
  cases hsize : Measure.of? x with
  | none =>
    rw [hsize] at h
    obtain rfl := Option.some.inj h
    exact .unsized hsize
  | some measured =>
    obtain ⟨measure, size⟩ := measured
    rw [hsize] at h
    dsimp only at h
    split at h
    · rename_i hmin
      obtain ⟨n, hn, hlt⟩ := Option.any_eq_true _ _ |>.1 hmin
      obtain rfl := Option.some.inj h
      exact .tooShort hsize hn (of_decide_eq_true hlt)
    · rename_i hmin
      split at h
      · rename_i hmax
        obtain ⟨n, hn, hlt⟩ := Option.any_eq_true _ _ |>.1 hmax
        obtain rfl := Option.some.inj h
        refine .tooLong hsize (fun m hm => ?_) hn (of_decide_eq_true hlt)
        rw [hm] at hmin
        simpa using hmin
      · cases h

theorem numberBreach_of_numberFailure? {min max : Option Double} {x : Value} {slot : String}
    (h : numberFailure? min max x = some slot) : NumberBreach min max x slot := by
  cases x with
  | number y =>
    rw [numberFailure?] at h
    split at h
    · rename_i hnan
      obtain rfl := Option.some.inj h
      exact .invalid fun z hz => Value.number.inj hz ▸ hnan
    · rename_i hnan
      have hy : y.isNaN = false := Bool.eq_false_iff.2 hnan
      split at h
      · rename_i hmin
        obtain ⟨bound, hbound, hlt⟩ := Option.any_eq_true _ _ |>.1 hmin
        obtain rfl := Option.some.inj h
        exact .tooSmall hy hbound hlt
      · rename_i hmin
        split at h
        · rename_i hmax
          obtain ⟨bound, hbound, hlt⟩ := Option.any_eq_true _ _ |>.1 hmax
          obtain rfl := Option.some.inj h
          refine .tooLarge hy (fun m hm => ?_) hbound hlt
          rw [hm] at hmin
          simpa using hmin
        · cases h
  | _ =>
    obtain rfl := Option.some.inj h
    exact .invalid fun _ hz => nomatch hz

/-- **A length check fails from the slot of the bound that is broken first.** -/
theorem lengthFailure?_eq_some_iff {min max : Option Nat} {x : Value} {slot : String} :
    lengthFailure? min max x = some slot ↔ LengthBreach min max x slot := by
  refine ⟨lengthBreach_of_lengthFailure?, fun h => ?_⟩
  rw [lengthFailure?]
  cases h with
  | unsized hsize => rw [hsize]
  | tooShort hsize hmin hshort =>
    have hbroken : (min.any fun n => decide (_ < n)) = true :=
      (Option.any_eq_true _ _).2 ⟨_, hmin, decide_eq_true hshort⟩
    rw [hsize]
    exact if_pos hbroken
  | @tooLong measure size n hsize hlong hmax hbeyond =>
    have hkept : ¬ (min.any fun n => decide (size < n)) = true := by
      rw [Option.any_eq_true]
      rintro ⟨m, hm, hshort⟩
      exact Nat.not_lt.2 (hlong m hm) (of_decide_eq_true hshort)
    have hbroken : (max.any fun n => decide (n < size)) = true :=
      (Option.any_eq_true _ _).2 ⟨_, hmax, decide_eq_true hbeyond⟩
    rw [hsize]
    exact (if_neg hkept).trans (if_pos hbroken)

/-- **A number check fails from the slot of the bound that is broken first.** -/
theorem numberFailure?_eq_some_iff {min max : Option Double} {x : Value} {slot : String} :
    numberFailure? min max x = some slot ↔ NumberBreach min max x slot := by
  refine ⟨numberBreach_of_numberFailure?, fun h => ?_⟩
  cases h with
  | invalid hnan =>
    cases x with
    | number y => exact if_pos (hnan y rfl)
    | _ => rfl
  | @tooSmall y bound hy hmin hbelow =>
    have hbroken : (min.any fun bound => y.lt bound) = true :=
      (Option.any_eq_true _ _).2 ⟨bound, hmin, hbelow⟩
    rw [numberFailure?, hy, if_neg Bool.false_ne_true]
    exact if_pos hbroken
  | @tooLarge y bound hy hlarge hmax habove =>
    have hkept : ¬ (min.any fun bound => y.lt bound) = true := by
      rw [Option.any_eq_true]
      rintro ⟨m, hm, hbelow⟩
      exact Bool.false_ne_true ((hlarge m hm).symm.trans hbelow)
    have hbroken : (max.any fun bound => bound.lt y) = true :=
      (Option.any_eq_true _ _).2 ⟨bound, hmax, habove⟩
    rw [numberFailure?, hy, if_neg Bool.false_ne_true]
    exact (if_neg hkept).trans (if_pos hbroken)

/-! ## The slots of a check -/

/-- The slots of the length check. -/
def lengthSlots : List String := ["invalid", "tooShortString", "tooShortArray", "tooShortObject",
  "tooLongString", "tooLongArray", "tooLongObject"]

/-- The slots of the number check. -/
def numberSlots : List String := ["invalid", "tooSmall", "tooLarge"]

theorem LengthBreach.mem_lengthSlots {min max : Option Nat} {x : Value} {slot : String}
    (h : LengthBreach min max x slot) : slot ∈ lengthSlots := by
  cases h with
  | unsized => decide
  | @tooShort measure => cases measure <;> decide
  | @tooLong measure => cases measure <;> decide

theorem NumberBreach.mem_numberSlots {min max : Option Double} {x : Value} {slot : String}
    (h : NumberBreach min max x slot) : slot ∈ numberSlots := by
  cases h with
  | invalid => decide
  | tooSmall => decide
  | tooLarge => decide

namespace Check

variable {c : Check} {x : Value} {failure : Failure} {slot : String}

/-- Whether a check is a predicate of the user's. -/
def IsInline (c : Check) : Prop := ∃ predicate, c = .inline predicate

/-- The slots that a check can fail with. -/
def slots : Check → List String
  | .length .. => lengthSlots
  | .number .. => numberSlots
  | .regexp _ => [Messages.defaultSlot, "badType"]
  | .range bounds => [bounds.slot]
  | .inline _ => []
  | _ => [Messages.defaultSlot]

@[simp] theorem passIf_eq_none_iff {condition : Bool} :
    c.passIf condition slot = none ↔ condition = true := by
  cases condition with
  | true => exact iff_of_true rfl rfl
  | false => exact iff_of_false (fun h => nomatch h) Bool.false_ne_true

theorem passIf_eq_some_iff {condition : Bool} :
    c.passIf condition slot = some failure ↔
      condition = false ∧ failure = .slot slot c.reference? := by
  cases condition with
  | true => exact iff_of_false (fun h => nomatch h) fun h => nomatch h.1
  | false => exact ⟨fun h => ⟨rfl, (Option.some.inj h).symm⟩, fun h => congrArg some h.2.symm⟩

theorem failingWith_eq_some_iff {found : Option String} :
    c.failingWith found = some failure ↔
      ∃ slot, found = some slot ∧ failure = .slot slot c.reference? := by
  rw [failingWith, Option.map_eq_some_iff]
  exact exists_congr fun slot => and_congr Iff.rfl eq_comm

theorem failure?_regexp_of_text {pattern : Option Regex} {s : String}
    (h : (Check.regexp pattern).failure? (.text s) = some failure) :
    ∃ r, pattern = some r ∧ r.isMatch s = false ∧
      failure = .slot Messages.defaultSlot (Check.regexp pattern).reference? := by
  cases pattern with
  | none => cases h
  | some r =>
    obtain ⟨hmatch, hfailure⟩ := passIf_eq_some_iff.1 h
    exact ⟨r, rfl, hmatch, hfailure⟩

theorem failure?_regexp_of_not_text {pattern : Option Regex} (hx : ∀ s, x ≠ .text s) :
    (Check.regexp pattern).failure? x =
      some (.slot "badType" (Check.regexp pattern).reference?) := by
  cases x with
  | text s => exact absurd rfl (hx s)
  | _ => rfl

/-- A value of another kind is said to be of the wrong one. -/
theorem eq_mismatch_of_failure?_type {expected : String}
    (h : (Check.type expected).failure? x = some failure) :
    failure = .slot Messages.defaultSlot (mismatch expected x.typeTag) := by
  rw [failure?] at h
  split at h
  · cases h
  · exact (Option.some.inj h).symm

theorem eq_mismatch_of_failure?_instanceOf {cls : ClassRef}
    (h : (Check.instanceOf cls).failure? x = some failure) :
    failure = .slot Messages.defaultSlot (mismatch cls.name x.kindName) := by
  rw [failure?] at h
  split at h
  · cases h
  · exact (Option.some.inj h).symm

/-- **A check that is no predicate of the user's fails with one of its slots.** -/
theorem exists_slot_of_failure (h : c.failure? x = some failure) (hc : ¬ c.IsInline) :
    ∃ slot ∈ c.slots, ∃ references, failure = .slot slot references := by
  have hdefault : Messages.defaultSlot ∈ [Messages.defaultSlot] := List.mem_singleton_self _
  cases c with
  | inline predicate => exact absurd ⟨predicate, rfl⟩ hc
  | length min max =>
    obtain ⟨slot, hslot, hfailure⟩ := failingWith_eq_some_iff.1 h
    exact ⟨slot, (lengthBreach_of_lengthFailure? hslot).mem_lengthSlots, _, hfailure⟩
  | number min max =>
    obtain ⟨slot, hslot, hfailure⟩ := failingWith_eq_some_iff.1 h
    exact ⟨slot, (numberBreach_of_numberFailure? hslot).mem_numberSlots, _, hfailure⟩
  | type expected => exact ⟨_, hdefault, _, eq_mismatch_of_failure?_type h⟩
  | instanceOf cls => exact ⟨_, hdefault, _, eq_mismatch_of_failure?_instanceOf h⟩
  | regexp pattern =>
    by_cases hx : ∃ s, x = .text s
    · obtain ⟨s, rfl⟩ := hx
      obtain ⟨r, -, -, hfailure⟩ := failure?_regexp_of_text h
      exact ⟨_, List.mem_cons_self, _, hfailure⟩
    · rw [failure?_regexp_of_not_text fun s hs => hx ⟨s, hs⟩] at h
      exact ⟨_, List.mem_cons_of_mem _ (List.mem_singleton_self _), _, (Option.some.inj h).symm⟩
  | range bounds =>
    exact ⟨_, List.mem_singleton_self _, _, (passIf_eq_some_iff.1 h).2⟩
  | required | boolean _ _ | url _ _ _ | email _ | ip _ _ | hostname | date | time | datetime
  | custom _ =>
    exact ⟨_, hdefault, _, (passIf_eq_some_iff.1 h).2⟩

theorem mem_slots_of_failure {references : String → Option String}
    (h : c.failure? x = some (.slot slot references)) (hc : ¬ c.IsInline) : slot ∈ c.slots := by
  obtain ⟨other, hother, _, heq⟩ := exists_slot_of_failure h hc
  cases heq
  exact hother

end Check

/-! ## The verdict of a validator -/

namespace Validator

variable {v : Validator} {x : Value} {slot text : String}
  {references : String → Option String}

/-- The validator refuses a value with the message of a slot, whose tokens stand for the
references. -/
structure FailsFrom (v : Validator) (x : Value) (slot : String)
    (references : String → Option String) : Prop where
  checked : v.skips x = false
  failure : v.check.failure? x = some (.slot slot references)

theorem skips_eq (h : ¬ v.check.IsInline) (x : Value) :
    v.skips x = (v.settings.allowEmpty && x.isEmpty) := by
  rw [skips]
  split
  · rename_i predicate hcheck
    exact absurd ⟨predicate, hcheck⟩ h
  · rfl

@[simp] theorem judge_eq_valid_iff : v.judge x = .valid ↔ v.check.failure? x = none := by
  rw [judge]
  cases v.check.failure? x with
  | none => exact iff_of_true rfl rfl
  | some failure => cases failure <;> exact iff_of_false (fun h => nomatch h) (fun h => nomatch h)

/-- The check refuses a value with the message of a slot, filled from the configuration. -/
def RefusesFrom (v : Validator) (x : Value) (slot : String) : Prop :=
  v.check.failure? x = some (.slot slot v.reference?)

theorem RefusesFrom.judge_eq (h : v.RefusesFrom x slot) : v.judge x = v.fail slot := by
  rw [judge, h]
  rfl

theorem refusesFrom_iff_of_failingWith {found : Option String}
    (h : v.check.failure? x = v.check.failingWith found) :
    v.RefusesFrom x slot ↔ found = some slot := by
  rw [RefusesFrom, h, Check.failingWith_eq_some_iff]
  constructor
  · rintro ⟨_, hfound, ⟨⟩⟩
    exact hfound
  · intro hfound
    exact ⟨slot, hfound, rfl⟩

theorem validate_eq_judge (h : v.skips x = false) : v.validate x = v.judge x := by
  rw [validate, h, if_neg Bool.false_ne_true]

theorem validate_eq_valid_iff :
    v.validate x = .valid ↔ v.skips x = true ∨ v.check.failure? x = none := by
  rw [validate, ← judge_eq_valid_iff]
  cases v.skips x with
  | true => exact iff_of_true rfl (Or.inl rfl)
  | false => rw [if_neg Bool.false_ne_true, or_iff_right Bool.false_ne_true]

/-- What passes a check is accepted under any settings. -/
theorem validate_withSettings_eq_valid (h : v.check.failure? x = none) (s : Settings) :
    { v with settings := s }.validate x = .valid :=
  validate_eq_valid_iff.2 (Or.inr h)

theorem FailsFrom.validate_eq (h : v.FailsFrom x slot references) :
    v.validate x = .invalid (Template.prepare (v.settings.messages.get slot) references) := by
  rw [validate_eq_judge h.checked, judge, h.failure]
  rfl

/-- **A refusal is the message of a slot.** -/
theorem validate_eq_invalid_iff (hv : ¬ v.check.IsInline) :
    v.validate x = .invalid text ↔ ∃ slot references, v.FailsFrom x slot references ∧
      text = Template.prepare (v.settings.messages.get slot) references := by
  constructor
  · intro h
    have hinvalid : ¬ (v.skips x = true ∨ v.check.failure? x = none) := by
      rw [← validate_eq_valid_iff, h]
      exact fun h => nomatch h
    rw [not_or, Bool.not_eq_true] at hinvalid
    obtain ⟨failure, hfailure⟩ := Option.ne_none_iff_exists'.1 hinvalid.2
    obtain ⟨slot, -, references, rfl⟩ := Check.exists_slot_of_failure hfailure hv
    have hfails : v.FailsFrom x slot references := ⟨hinvalid.1, hfailure⟩
    rw [hfails.validate_eq] at h
    exact ⟨slot, references, hfails, (Outcome.invalid.inj h).symm⟩
  · rintro ⟨slot, references, hfails, rfl⟩
    exact hfails.validate_eq

theorem FailsFrom.mem_slots (h : v.FailsFrom x slot references) (hv : ¬ v.check.IsInline) :
    slot ∈ v.check.slots := Check.mem_slots_of_failure h.failure hv

/-! ## Changing the settings -/

/-- What can be changed about a validator once it is made. -/
inductive Change where
  /-- The template of the default slot. -/
  | message (template : String)
  | template (slot template : String)
  | allowEmpty (flag : Bool)

def change (v : Validator) : Change → Validator
  | .message template => v.setMessage template
  | .template slot template => v.setTemplate slot template
  | .allowEmpty flag => v.setAllowEmpty flag

/-- One change after the other. -/
def changeAll (v : Validator) (changes : List Change) : Validator := changes.foldl change v

/-- There is a template for every slot the check can fail with. -/
structure Worded (v : Validator) : Prop where
  notInline : ¬ v.check.IsInline
  templates : ∀ slot ∈ v.check.slots, ∃ template,
    v.settings.messages.templates.find? slot = some template

@[simp] theorem check_change (v : Validator) (c : Change) : (v.change c).check = v.check := by
  cases c <;> rfl

/-- A change takes no template away. -/
theorem exists_template_change {c : Change}
    (h : ∃ template, v.settings.messages.templates.find? slot = some template) :
    ∃ template, (v.change c).settings.messages.templates.find? slot = some template := by
  have hset : ∀ key text, ∃ template,
      (v.setTemplate key text).settings.messages.templates.find? slot = some template := by
    intro key text
    rw [setTemplate, Messages.find?_set]
    split
    · exact ⟨text, rfl⟩
    · exact h
  cases c with
  | message text => exact hset _ text
  | template key text => exact hset key text
  | allowEmpty _ => exact h

theorem Worded.change (h : v.Worded) (c : Change) : (v.change c).Worded where
  notInline := by
    rw [check_change]
    exact h.notInline
  templates slot hslot := by
    rw [check_change] at hslot
    exact exists_template_change (h.templates slot hslot)

/-- **No changes leave a failure without a template.** -/
theorem Worded.changeAll (h : v.Worded) (changes : List Change) : (v.changeAll changes).Worded := by
  induction changes generalizing v with
  | nil => exact h
  | cons c rest ih => exact ih (h.change c)

theorem check_changeAll (v : Validator) (changes : List Change) :
    (v.changeAll changes).check = v.check := by
  induction changes generalizing v with
  | nil => rfl
  | cons c rest ih => exact (ih (v.change c)).trans (v.check_change c)

end Validator

end Vetting
