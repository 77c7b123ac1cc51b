import Vetting.Proofs.Template
import Vetting.Proofs.Validator.Origin
import Vetting.Regex.Size

/-!
# What failures read

A failure is put into the words of a template, and two things could go wrong there.  The slot that
the check fails with might have no template, so that the failure reads as nothing at all; or the
template might have a token that the check has no answer to, so that there is a hole in it.  Neither
happens to the built-in validators.

The first is an invariant of `Validator.Worded`, kept by all that options and setters can do.  The
second is a matter of the templates a validator is made with, and it is settled by writing out what
each of them reads: `Check.DefaultText` is the list, and `Builtin.Typed.fills` says that it is
right.  A bound is shown only where it was broken, so there is one to be shown.

Templates of the user's may have any tokens, of course.  `Builtin.failure_text` therefore looks at
one slot at a time: whatever was done to the others, where the template of the failing slot is the
one the validator was made with, the failure reads as listed.
-/

namespace Vetting

variable {name slot template : String} {x : Value} {v : Validator}
  {references : String → Option String}

namespace Measure

/-- What a value of this measure is asked to do. -/
def verb : Measure → String
  | .characters => "be"
  | .items | .keys => "contain"

/-- What the size of a value is counted in. -/
def unit : Measure → String
  | .characters => "character(s)"
  | .items => "item(s)"
  | .keys => "key(s)"

end Measure

/-! ## The texts -/

namespace Check

/-- What a check says of a value it refuses, as long as nobody has changed the templates. -/
inductive DefaultText : Check → Value → String → Prop
  | required {x : Value} : DefaultText .required x "Cannot be empty."
  | type {expected : String} {x : Value} :
      DefaultText (.type expected) x ("Expected " ++ expected ++ ", got " ++ x.typeTag ++ ".")
  | instanceOf {cls : ClassRef} {x : Value} :
      DefaultText (.instanceOf cls) x ("Expected " ++ cls.name ++ ", got " ++ x.kindName ++ ".")
  | unsized {min max : Option Nat} {x : Value} (h : Measure.of? x = none) :
      DefaultText (.length min max) x "The value is invalid."
  | tooShort {n size : Nat} {max : Option Nat} {measure : Measure} {x : Value}
      (hsize : Measure.of? x = some (measure, size)) (h : size < n) :
      DefaultText (.length (some n) max) x
        ("Too short, should " ++ measure.verb ++ " at least " ++ toString n ++
          (" " ++ measure.unit ++ "."))
  | tooLong {n size : Nat} {min : Option Nat} {measure : Measure} {x : Value}
      (hsize : Measure.of? x = some (measure, size)) (h : n < size) :
      DefaultText (.length min (some n)) x
        ("Too long, should " ++ measure.verb ++ " at most " ++ toString n ++
          (" " ++ measure.unit ++ "."))
  | noNumber {min max : Option Double} {x : Value} (h : ∀ y, x = .number y → y.isNaN = true) :
      DefaultText (.number min max) x "Expected a number."
  | tooSmall {bound y : Double} {max : Option Double} (h : y.lt bound = true) :
      DefaultText (.number (some bound) max) (.number y)
        ("Must be at least " ++ bound.display ++ ".")
  | tooLarge {bound y : Double} {min : Option Double} (h : bound.lt y = true) :
      DefaultText (.number min (some bound)) (.number y)
        ("Must be at most " ++ bound.display ++ ".")
  | boolean {trueValues falseValues : List Value} {x : Value} :
      DefaultText (.boolean trueValues falseValues) x "Must be true or false."
  | noMatch {r : Regex} {s : String} (h : r.isMatch s = false) :
      DefaultText (.regexp (some r)) (.text s) "Does not match the required pattern."
  | noText {pattern : Option Regex} {x : Value} (h : ∀ s, x ≠ .text s) :
      DefaultText (.regexp pattern) x "Should be a text value."
  | notAmong {values : List Value} {x : Value} :
      DefaultText (.range (.oneOf values)) x "Not in the list of valid options."
  | notBetween {start stop x : Value} :
      DefaultText (.range (.between start stop)) x
        ("Must be between " ++ start.display ++ " and " ++ stop.display ++ ".")
  | url {schemes : List String} {strict : Bool} {pattern : Regex.Pattern} {x : Value} :
      DefaultText (.url schemes strict pattern) x "Not a valid URL."
  | email {pattern : Regex.Pattern} {x : Value} :
      DefaultText (.email pattern) x "Not a valid email address."
  | ip {v4 v6 : Bool} {x : Value} : DefaultText (.ip v4 v6) x "Not a valid IP address."
  | hostname {x : Value} : DefaultText .hostname x "Not a valid hostname."
  | date {x : Value} : DefaultText .date x "Not a valid date."
  | time {x : Value} : DefaultText .time x "Not a valid time."
  | datetime {x : Value} : DefaultText .datetime x "Not a valid date / time."

end Check

/-! ## The templates they come from -/

namespace Validator

/-- A validator with one message has it in the default slot. -/
theorem find?_withMessage (name message : String) (check : Check) :
    (withMessage name message check).settings.messages.templates.find? Messages.defaultSlot =
      some message :=
  Dict.find?_insert_self _ _ _

/-- A check that passes or fails with the default slot says the message of its validator. -/
theorem fills_passIf {message : String} {check : Check} {condition : Bool}
    (hreads : Template.Reads message [] message)
    (hfailure : check.passIf condition Messages.defaultSlot = some (.slot slot references))
    (htemplate : (withMessage name message check).settings.messages.templates.find? slot =
      some template) : Template.Fills template references message := by
  cases (Check.passIf_eq_some_iff.1 hfailure).2
  rw [find?_withMessage] at htemplate
  rw [← Option.some.inj htemplate]
  exact hreads.fills_plain

/-- A mismatch says what was expected and what was found. -/
theorem fills_mismatch (expected got : String) {check : Check}
    (htemplate : (withMessage name Builtin.mismatchTemplate check).settings.messages.templates.find?
      Messages.defaultSlot = some template) :
    Template.Fills template (Check.mismatch expected got)
      ("Expected " ++ expected ++ ", got " ++ got ++ ".") := by
  have hreads : Template.Reads Builtin.mismatchTemplate
      [("Expected ", "expected"), (", got ", "got")] "." := by decide +kernel
  rw [find?_withMessage] at htemplate
  rw [← Option.some.inj htemplate]
  exact hreads.fills_two rfl rfl

end Validator

namespace Builtin

variable {min max : Option Nat}

theorem exists_template_tooShort (min max : Option Nat) (measure : Measure) :
    ∃ template, (bounded min max).settings.messages.templates.find? measure.tooShortSlot =
        some template ∧
      Template.Reads template [("Too short, should " ++ measure.verb ++ " at least ", "min")]
        (" " ++ measure.unit ++ ".") := by
  cases measure <;> exact ⟨_, rfl, by decide +kernel⟩

theorem exists_template_tooLong (min max : Option Nat) (measure : Measure) :
    ∃ template, (bounded min max).settings.messages.templates.find? measure.tooLongSlot =
        some template ∧
      Template.Reads template [("Too long, should " ++ measure.verb ++ " at most ", "max")]
        (" " ++ measure.unit ++ ".") := by
  cases measure <;> exact ⟨_, rfl, by decide +kernel⟩

/-- A broken bound on the size is shown, since it is there. -/
theorem exists_fills_length (hslot : LengthBreach min max x slot)
    (htemplate : (bounded min max).settings.messages.templates.find? slot = some template) :
    ∃ text, Template.Fills template (Check.length min max).reference? text ∧
      (Check.length min max).DefaultText x text := by
  cases hslot with
  | unsized h =>
    cases htemplate
    have hreads : Template.Reads "The value is invalid." [] "The value is invalid." := by decide
    exact ⟨_, hreads.fills_plain, .unsized h⟩
  | @tooShort measure size n hsize hmin h =>
    obtain ⟨other, hother, hreads⟩ := exists_template_tooShort min max measure
    obtain rfl := Option.some.inj (hother.symm.trans htemplate)
    subst hmin
    exact ⟨_, hreads.fills_one rfl, .tooShort hsize h⟩
  | @tooLong measure size n hsize _ hmax h =>
    obtain ⟨other, hother, hreads⟩ := exists_template_tooLong min max measure
    obtain rfl := Option.some.inj (hother.symm.trans htemplate)
    subst hmax
    exact ⟨_, hreads.fills_one rfl, .tooLong hsize h⟩

/-- A broken bound on a number is shown, since it is there. -/
theorem exists_fills_number {min max : Option Double} (hslot : NumberBreach min max x slot)
    (htemplate : (number min max).settings.messages.templates.find? slot = some template) :
    ∃ text, Template.Fills template (Check.number min max).reference? text ∧
      (Check.number min max).DefaultText x text := by
  cases hslot with
  | invalid h =>
    cases htemplate
    have hreads : Template.Reads "Expected a number." [] "Expected a number." := by decide
    exact ⟨_, hreads.fills_plain, .noNumber h⟩
  | @tooSmall y bound _ hmin h =>
    cases htemplate
    subst hmin
    have hreads : Template.Reads "Must be at least \x7b\x7bmin\x7d\x7d."
        [("Must be at least ", "min")] "." := by decide +kernel
    exact ⟨_, hreads.fills_one rfl, .tooSmall h⟩
  | @tooLarge y bound _ _ hmax h =>
    cases htemplate
    subst hmax
    have hreads : Template.Reads "Must be at most \x7b\x7bmax\x7d\x7d."
        [("Must be at most ", "max")] "." := by decide +kernel
    exact ⟨_, hreads.fills_one rfl, .tooLarge h⟩

theorem exists_fills_regexp {pattern : Option Regex}
    (hfailure : (Check.regexp pattern).failure? x = some (.slot slot references))
    (htemplate : (regexp pattern).settings.messages.templates.find? slot = some template) :
    ∃ text, Template.Fills template references text ∧
      (Check.regexp pattern).DefaultText x text := by
  by_cases hx : ∃ s, x = .text s
  · obtain ⟨s, rfl⟩ := hx
    obtain ⟨r, rfl, hmatch, heq⟩ := Check.failure?_regexp_of_text hfailure
    cases heq
    cases htemplate
    have hreads : Template.Reads "Does not match the required pattern." []
        "Does not match the required pattern." := by decide
    exact ⟨_, hreads.fills_plain, .noMatch hmatch⟩
  · rw [Check.failure?_regexp_of_not_text fun s hs => hx ⟨s, hs⟩] at hfailure
    cases hfailure
    cases htemplate
    have hreads : Template.Reads "Should be a text value." [] "Should be a text value." := by decide
    exact ⟨_, hreads.fills_plain, .noText fun s hs => hx ⟨s, hs⟩⟩

/-- An interval shows both its ends. -/
theorem exists_fills_range {bounds : RangeBounds}
    (hfailure : (Check.range bounds).failure? x = some (.slot slot references))
    (htemplate : (range bounds).settings.messages.templates.find? slot = some template) :
    ∃ text, Template.Fills template references text ∧ (Check.range bounds).DefaultText x text := by
  cases (Check.passIf_eq_some_iff.1 hfailure).2
  cases bounds with
  | oneOf values =>
    cases htemplate
    have hreads : Template.Reads "Not in the list of valid options." []
        "Not in the list of valid options." := by decide
    exact ⟨_, hreads.fills_plain, .notAmong⟩
  | between start stop =>
    cases htemplate
    have hreads : Template.Reads
        "Must be between \x7b\x7bstart\x7d\x7d and \x7b\x7bstop\x7d\x7d."
        [("Must be between ", "start"), (" and ", "stop")] "." := by decide +kernel
    exact ⟨_, hreads.fills_two rfl rfl, .notBetween⟩

/-- **The templates a validator is made with are filled**, and read as listed. -/
theorem Typed.fills (h : Typed name v)
    (hfailure : v.check.failure? x = some (.slot slot references))
    (htemplate : v.settings.messages.templates.find? slot = some template) :
    ∃ text, Template.Fills template references text ∧ v.check.DefaultText x text := by
  cases h with
  | required => exact ⟨_, Validator.fills_passIf (by decide) hfailure htemplate, .required⟩
  | boolean _ _ => exact ⟨_, Validator.fills_passIf (by decide) hfailure htemplate, .boolean⟩
  | url _ _ _ => exact ⟨_, Validator.fills_passIf (by decide) hfailure htemplate, .url⟩
  | email _ => exact ⟨_, Validator.fills_passIf (by decide) hfailure htemplate, .email⟩
  | ip _ _ => exact ⟨_, Validator.fills_passIf (by decide) hfailure htemplate, .ip⟩
  | hostname => exact ⟨_, Validator.fills_passIf (by decide) hfailure htemplate, .hostname⟩
  | date => exact ⟨_, Validator.fills_passIf (by decide) hfailure htemplate, .date⟩
  | time => exact ⟨_, Validator.fills_passIf (by decide) hfailure htemplate, .time⟩
  | datetime => exact ⟨_, Validator.fills_passIf (by decide) hfailure htemplate, .datetime⟩
  | type expected =>
    cases Check.eq_mismatch_of_failure?_type hfailure
    exact ⟨_, Validator.fills_mismatch _ _ htemplate, .type⟩
  | instanceOf cls =>
    cases Check.eq_mismatch_of_failure?_instanceOf hfailure
    exact ⟨_, Validator.fills_mismatch _ _ htemplate, .instanceOf⟩
  | @length min max _ h =>
    obtain ⟨rfl, -⟩ := eq_bounded_of_length h
    obtain ⟨_, hbroken, heq⟩ := Check.failingWith_eq_some_iff.1 hfailure
    cases heq
    exact exists_fills_length (lengthBreach_of_lengthFailure? hbroken) htemplate
  | number min max =>
    obtain ⟨_, hbroken, heq⟩ := Check.failingWith_eq_some_iff.1 hfailure
    cases heq
    exact exists_fills_number (numberBreach_of_numberFailure? hbroken) htemplate
  | regexp pattern => exact exists_fills_regexp hfailure htemplate
  | range bounds => exact exists_fills_range hfailure htemplate

/-! ## Whatever was done to the settings -/

/-- The built-in validators, made of parameters or of options. -/
inductive Made [Regex.Engine] (name : String) (v : Validator) : Prop
  | typed (h : Typed name v)
  | options {factory : Factory} {o : Options} (hfactory : factory? name = some factory)
      (h : factory o = .ok v)

/-- Options take no template from the validator they are applied to. -/
theorem Made.exists_typed [Regex.Engine] (h : Made name v) :
    ∃ original, Typed name original ∧ original.check = v.check ∧ v.Worded := by
  cases h with
  | typed h => exact ⟨v, h, rfl, h.fresh.toWorded⟩
  | options hfactory h =>
    obtain ⟨original, htyped, hconfigured⟩ := exists_typed_of_factory? hfactory h
    exact ⟨original, htyped, hconfigured.check.symm, hconfigured.worded htyped.fresh.toWorded⟩

/-- **No failure is without its text.**  However a built-in validator was made, and whatever was
done to its settings since, a refusal is the text of a template that it has in the slot in question.
Where this is the template it was made with, every token in it has an answer, and the refusal reads
as `Check.DefaultText` has it. -/
theorem failure_text [Regex.Engine] (hv : Made name v) :
    ∃ original, Typed name original ∧ original.check = v.check ∧ ∀ changes x text,
      (v.changeAll changes).validate x = .invalid text → ∃ slot references template,
        (v.changeAll changes).FailsFrom x slot references ∧
        (v.changeAll changes).settings.messages.templates.find? slot = some template ∧
        text = Template.prepare template references ∧
        (original.settings.messages.templates.find? slot = some template →
          (∀ word ∈ Template.words template, ∃ answer, references word = some answer) ∧
            v.check.DefaultText x text) := by
  obtain ⟨original, htyped, hcheck, hworded⟩ := hv.exists_typed
  refine ⟨original, htyped, hcheck, fun changes x text htext => ?_⟩
  have hchanged := hworded.changeAll changes
  obtain ⟨slot, references, hfails, rfl⟩ :=
    (Validator.validate_eq_invalid_iff hchanged.notInline).1 htext
  obtain ⟨template, htemplate⟩ := hchanged.templates slot (hfails.mem_slots hchanged.notInline)
  have hget : (v.changeAll changes).settings.messages.get slot = template := by
    rw [Messages.get, htemplate]
    rfl
  refine ⟨slot, references, template, hfails, htemplate, by rw [hget], fun hmade => ?_⟩
  have hfailure : original.check.failure? x = some (.slot slot references) := by
    rw [hcheck, ← v.check_changeAll changes]
    exact hfails.failure
  obtain ⟨text, hfills, hdefault⟩ := htyped.fills hfailure hmade
  rw [hget, hfills.text, ← hcheck]
  exact ⟨hfills.supplied, hdefault⟩

theorem exists_bounds_of_typed (h : Typed "range" v) : ∃ bounds, v = range bounds := by
  generalize hname : "range" = name at h
  cases h with
  | range bounds => exact ⟨bounds, rfl⟩
  | _ => exact absurd hname (by decide)

section

attribute [local instance] Regex.Engine.standard

/-- An interval shows its ends, although the message, which it does not use, has been changed. -/
theorem failure_text_range :
    ∃ factory v, factory? "range" = some factory ∧
      factory (.ofList [("between", .array [.text "a", .text "m"])]) = .ok v ∧
      (v.changeAll [.message "Unread.", .allowEmpty true]).validate (.text "z") =
        .invalid "Must be between a and m." ∧
      v.check.DefaultText (.text "z") "Must be between a and m." := by
  obtain ⟨original, htyped, hcheck, hfailure⟩ := @failure_text "range" _ _
    (.options (o := .ofList [("between", .array [.text "a", .text "m"])]) rfl rfl)
  obtain ⟨bounds, rfl⟩ := exists_bounds_of_typed htyped
  refine ⟨_, _, rfl, rfl, by decide, ?_⟩
  obtain ⟨slot, references, template, hfails, htemplate, -, hdefault⟩ := hfailure
    [.message "Unread.", .allowEmpty true] (.text "z") "Must be between a and m." (by decide)
  cases hfails.failure
  cases htemplate
  exact (hdefault rfl).2

end

end Builtin

end Vetting
