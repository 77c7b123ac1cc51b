import Vetting.Proofs.Registry
import Vetting.Proofs.Validator.Origin
import Vetting.Regex.Size
import Vetting.Schema.Rule

/-!
# Letting empty values pass

The option `allowEmpty` is the only one that all validators share and that bears on a verdict.  What
it does is the same for all of them, and it does nothing else:

* `Value.Empty` lists the values that are let pass, whatever the validator;
* `Validator.Fresh.validate_setAllowEmpty`: with the flag set these pass, and on every other value
  the verdict is the one without the flag, message included;
* `Registry.create_insert_allowEmpty`: giving the option is setting the flag afterwards.  Since the
  flag is no part of any validator's own options, and is read before the other common ones without
  looking at them, this is so for refused options as well: the error is the same.

A predicate stands outside of all this.  It sees every value (`Validator.validate_of_inline`).
-/

namespace Vetting

variable {validator : String} {options : Options} {x : Value} {v : Validator}

namespace Value

/-- The empty values.  An object without fields is one of them unless it is an instance of a
class. -/
inductive Empty : Value → Prop
  | undefined : Empty .undefined
  | null : Empty .null
  | text : Empty (.text "")
  | array : Empty (.array [])
  | plain : Empty (.object .plain [])
  | bare : Empty (.object .bare [])

@[simp] theorem isEmpty_iff : x.isEmpty = true ↔ x.Empty := by
  constructor
  · intro h
    cases x with
    | undefined => exact .undefined
    | null => exact .null
    | text s =>
      obtain rfl := String.isEmpty_iff.1 h
      exact .text
    | array items =>
      obtain rfl := List.isEmpty_iff.1 h
      exact .array
    | object prototype fields =>
      obtain ⟨hfields, hprototype⟩ := Bool.and_eq_true_iff.1 h
      obtain rfl := List.isEmpty_iff.1 hfields
      cases prototype with
      | plain => exact .plain
      | bare => exact .bare
      | instanceOf cls => cases hprototype
    | bool _ | number _ | date _ => cases h
  · intro h
    cases h <;> rfl

end Value

namespace Validator

/-! ## The flag and the verdict -/

/-- **With the flag set empty values pass, and nothing else changes.** -/
theorem Fresh.validate_setAllowEmpty (h : v.Fresh) (flag : Bool) (x : Value) :
    (v.setAllowEmpty flag).validate x = if flag && x.isEmpty then .valid else v.validate x := by
  have hskips : v.skips x = false := by
    rw [skips_eq h.notInline, h.allowEmpty, Bool.false_and]
  have hset : (v.setAllowEmpty flag).skips x = (flag && x.isEmpty) :=
    skips_eq (v := v.setAllowEmpty flag) h.notInline x
  rw [validate, validate, hskips, hset]
  rfl

/-- **A predicate of the user's sees every value**, and its verdict is taken as it is. -/
theorem validate_of_inline {predicate : Value → Outcome} (h : v.check = .inline predicate)
    (x : Value) : v.validate x = predicate x := by
  rw [validate, skips, judge, h, Check.failure?]
  cases predicate x <;> rfl

/-- Options without the flag leave a fresh validator fresh. -/
theorem Configured.fresh {original : Validator} (h : original.Configured options v)
    (horiginal : original.Fresh) (hoptions : options.find? "allowEmpty" = none) : v.Fresh where
  toWorded := h.worded horiginal.toWorded
  allowEmpty := by
    rw [h.allowEmpty, horiginal.allowEmpty, Options.allowEmpty?, Options.given?, hoptions]
    rfl

end Validator

/-! ## Giving the option -/

/-- Giving the option to a validator whose own options are others is setting the flag. -/
theorem Recipe.Describes.ofOptions_insert_allowEmpty {r : Recipe} {reading : Reading Validator}
    (h : r.Describes reading) (hr : r.Proper) (hoptions : options.find? "allowEmpty" = none)
    (flag : Bool) :
    Reading.ofOptions validator (options.insert "allowEmpty" (.bool flag)) reading =
      (Reading.ofOptions validator options reading).map fun v => v.setAllowEmpty flag := by
  have hcommon : "allowEmpty" ∈ Settings.commonKeys := by decide
  refine h.denotes.ofOptions_map ?_ fun key hkey => ?_
  · have hbase : r.base validator (options.insert "allowEmpty" (.bool flag)) =
        r.base validator options := by
      refine h.base_congr fun key hkey => Options.given?_insert_of_ne (fun heq => ?_) _
      exact hr.disjoint "allowEmpty" hcommon (heq ▸ hkey)
    rw [Recipe.meaning, Recipe.meaning, hbase]
    cases r.base validator options with
    | error e => rfl
    | ok v =>
      rw [ok_bind, ok_bind, Validator.configuredFrom, Validator.configuredFrom,
        Settings.configuredFrom_insert_allowEmpty hoptions]
      cases v.settings.configuredFrom validator options <;> rfl
  · have hne : key ≠ "allowEmpty" := fun heq => hkey (heq ▸ List.mem_append_right _ hcommon)
    rw [Dict.mem_keys_iff, Dict.mem_keys_iff, Dict.find?_insert_of_ne _ hne]

namespace Registry

variable {r : Registry} {n b : String} {factory : Factory} {o : Options}

/-- **Giving the option is setting the flag**, also where the options are refused. -/
theorem create_insert_allowEmpty [Regex.Engine] (hfactory : r.factories.find? n = some factory)
    (hstandard : Factory.Standard b factory) (ho : o.find? "allowEmpty" = none) (flag : Bool) :
    r.create n (o.insert "allowEmpty" (.bool flag)) =
      (r.create n o).map fun v => v.setAllowEmpty flag := by
  obtain ⟨recipe, hproper, reading, hreading, rfl⟩ := hstandard.exists_recipe_proper
  rw [create_of_find?_eq_some hfactory, create_of_find?_eq_some hfactory,
    hreading.ofOptions_insert_allowEmpty hproper ho]
  cases Reading.ofOptions b o reading <;> rfl

/-- What a standard factory makes of options without the flag lets no empty value pass
unchecked. -/
theorem fresh_of_create [Regex.Engine] (hfactory : r.factories.find? n = some factory)
    (hstandard : Factory.Standard b factory) (ho : o.find? "allowEmpty" = none)
    (hv : r.create n o = .ok v) : v.Fresh := by
  obtain ⟨original, horiginal, hconfigured⟩ :=
    hstandard.exists_configured ((create_eq_ok_iff hfactory).1 hv)
  exact hconfigured.fresh horiginal ho

/-- **The option `allowEmpty` does one thing.**  Given to options that do not have it, it changes no
error.  If it is true the empty values pass, and if it is false, or the value is not empty, the
verdict is what it was without it.  A predicate is not affected by it. -/
theorem create_allowEmpty [Regex.Engine] (hfactory : r.factories.find? n = some factory)
    (hstandard : Factory.Standard b factory) (ho : o.find? "allowEmpty" = none) :
    (∀ flag e, r.create n (o.insert "allowEmpty" (.bool flag)) = .error e ↔
      r.create n o = .error e) ∧
    (∀ v, r.create n o = .ok v → ∃ lenient strict,
      r.create n (o.insert "allowEmpty" (.bool true)) = .ok lenient ∧
      r.create n (o.insert "allowEmpty" (.bool false)) = .ok strict ∧
      ∀ x : Value, (x.Empty → lenient.validate x = .valid) ∧
        (¬ x.Empty → lenient.validate x = v.validate x) ∧
        strict.validate x = v.validate x) ∧
    (∀ predicate : Value → Outcome, ∃ v, r.resolve (.inline predicate) = .ok v ∧
      ∀ x, v.validate x = predicate x ∧
        ∀ flag, (v.setAllowEmpty flag).validate x = predicate x) := by
  refine ⟨fun flag e => ?_, fun v hv => ?_, fun predicate => ?_⟩
  · rw [create_insert_allowEmpty hfactory hstandard ho, map_eq_error_iff]
  · have hfresh := fresh_of_create hfactory hstandard ho hv
    have hmade : ∀ flag, r.create n (o.insert "allowEmpty" (.bool flag)) =
        .ok (v.setAllowEmpty flag) := by
      intro flag
      rw [create_insert_allowEmpty hfactory hstandard ho, hv]
      rfl
    refine ⟨_, _, hmade true, hmade false, fun x => ⟨fun hx => ?_, fun hx => ?_, ?_⟩⟩
    · rw [hfresh.validate_setAllowEmpty, Bool.true_and, if_pos (Value.isEmpty_iff.2 hx)]
    · rw [hfresh.validate_setAllowEmpty, Bool.true_and,
        if_neg fun h => hx (Value.isEmpty_iff.1 h)]
    · rw [hfresh.validate_setAllowEmpty, Bool.false_and, if_neg Bool.false_ne_true]
  · exact ⟨_, rfl, fun x => ⟨Validator.validate_of_inline rfl x,
      fun flag => Validator.validate_of_inline rfl x⟩⟩

section

attribute [local instance] Regex.Engine.standard

/-- The empty text is no number, and passes where empty values may; an instance of a class is no
empty value, even without fields. -/
theorem create_allowEmpty_type :
    ∃ v lenient, Registry.builtins.create "type" (.ofList [("type", .text "number")]) = .ok v ∧
      Registry.builtins.create "type"
        (.insert (.ofList [("type", .text "number")]) "allowEmpty" (.bool true)) = .ok lenient ∧
      v.validate (.text "") = .invalid "Expected number, got string." ∧
      lenient.validate (.text "") = .valid ∧
      lenient.validate (.object (.instanceOf ⟨"Money", []⟩) []) =
        .invalid "Expected number, got object." := by
  obtain ⟨-, hmade, -⟩ := create_allowEmpty (r := Registry.builtins) (n := "type")
    (o := .ofList [("type", .text "number")]) rfl (@Factory.Standard.builtin _ "type" _ rfl) rfl
  obtain ⟨lenient, strict, hlenient, -, hx⟩ := hmade _ rfl
  have hmoney : ¬ Value.Empty (.object (.instanceOf ⟨"Money", []⟩) []) := fun h => nomatch h
  refine ⟨_, lenient, rfl, hlenient, by decide, (hx _).1 .text, ?_⟩
  rw [(hx _).2.1 hmoney]
  decide

end

end Registry

end Vetting
