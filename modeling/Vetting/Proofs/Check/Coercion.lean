import Vetting.Proofs.Validator.Origin
import Vetting.Proofs.Value.Text
import Vetting.Regex.Size

/-!
# Checks that look at texts

The checks of addresses and of dates and times coerce a value to its text.  But for dates, which
some of them accept as they are, a value therefore fares as its text does
(`Validator.validate_eq_validate_text`), in words as well, because none of these checks quotes the
value in its message.

Coercion flattens arrays, so a text may be put into any number of arrays of one item without making
a difference (`Value.coercion_flattens`).
-/

namespace Vetting

/-! ## The checks -/

/-- The check looks at the text of a value, and may accept dates. -/
inductive Check.Coerces : Check → Prop
  | url (schemes : List String) (strict : Bool) (pattern : Regex.Pattern) :
      Coerces (.url schemes strict pattern)
  | email (pattern : Regex.Pattern) : Coerces (.email pattern)
  | ip (v4 v6 : Bool) : Coerces (.ip v4 v6)
  | hostname : Coerces .hostname
  | date : Coerces .date
  | time : Coerces .time
  | datetime : Coerces .datetime

namespace Check.Coerces

variable {c : Check}

theorem failure?_eq (h : c.Coerces) {x : Value} (hx : x.isDate = false) :
    c.failure? x = c.failure? (.text x.display) := by
  cases h with
  | url | email | ip | hostname => rfl
  | date | time | datetime =>
    rw [failure?, failure?, hx]
    rfl

theorem not_isInline (h : c.Coerces) : ¬ c.IsInline := by
  rintro ⟨_, rfl⟩
  cases h

end Check.Coerces

/-- A value that is no date fares as its text does. -/
theorem Validator.validate_eq_validate_text {v : Validator} (hcheck : v.check.Coerces)
    (hempty : v.allowEmpty = false) {x : Value} (hx : x.isDate = false) :
    v.validate x = v.validate (.text x.display) := by
  have hflag : v.settings.allowEmpty = false := hempty
  have hskips : ∀ y, v.skips y = false := by
    intro y
    rw [skips_eq hcheck.not_isInline, hflag, Bool.false_and]
  rw [validate_eq_judge (hskips x), validate_eq_judge (hskips _), judge, judge,
    hcheck.failure?_eq hx]

namespace Builtin

/-- The built-in validators that look at the text of a value. -/
def coercing : List String := ["url", "email", "ip", "hostname", "date", "time", "datetime"]

variable {name : String} {v : Validator}

theorem Typed.coerces (h : Typed name v) (hname : name ∈ coercing) : v.check.Coerces := by
  cases h with
  | url schemes strict pattern => exact .url schemes strict pattern
  | email pattern => exact .email pattern
  | ip v4 v6 => exact .ip v4 v6
  | hostname => exact .hostname
  | date => exact .date
  | time => exact .time
  | datetime => exact .datetime
  | _ => exact absurd hname (by decide)

end Builtin

/-! ## Arrays -/

namespace Value

/-- **Coercion flattens arrays.**  The text of an array is made of the leaves of its items with
commas between them.  So the text of two arrays that are not empty, one behind the other, is made of
their texts with a comma between them, and brackets with something between them do not show.

A validator that looks at the text of a value and has empty values checked gives the same verdict on
a text, in the same words, however many arrays of one item are put around it. -/
theorem coercion_flattens [Regex.Engine] :
    (∀ items : List Value, (array items).display = ",".intercalate (items.flatMap leaves)) ∧
    (∀ xs ys : List Value, xs ≠ [] → ys ≠ [] →
      (array (xs ++ ys)).display = (array xs).display ++ "," ++ (array ys).display) ∧
    (∀ xs ys zs : List Value, ys ≠ [] →
      (array (xs ++ array ys :: zs)).display = (array (xs ++ ys ++ zs)).display) ∧
    ∀ name ∈ Builtin.coercing, ∀ (factory : Factory) (options : Options) (v : Validator),
      Builtin.factory? name = some factory → factory options = .ok v → v.allowEmpty = false →
      ∀ (s : String) (depth : Nat),
        v.validate (wrapped depth (.text s)) = v.validate (.text s) := by
  refine ⟨fun items => ?leaves, fun xs ys hxs hys => display_append hxs hys,
    fun xs ys zs hys => display_nested xs zs hys, ?wrapped⟩
  case leaves => rw [display_array, itemLeaves_eq_flatMap]
  case wrapped =>
    intro name hname factory options v hfactory hv hempty s depth
    obtain ⟨original, htyped, hconfigured⟩ := Builtin.exists_typed_of_factory? hfactory hv
    have hcheck : v.check.Coerces := hconfigured.check ▸ htyped.coerces hname
    have hdate : (wrapped depth (.text s)).isDate = false := by cases depth <;> rfl
    rw [Validator.validate_eq_validate_text hcheck hempty hdate, display_wrapped rfl]
    rfl

section

attribute [local instance] Regex.Engine.standard

/-- Items that do not show keep their commas, and a name in two and three pairs of brackets. -/
theorem coercion_flattens_hostname :
    (array ([.text "a", .null] ++ [array [], .undefined])).display = "a," ++ "," ++ "," ∧
    (array ([.text "a"] ++ array [.null, array []] :: [.text "b"])).display = "a,,,b" ∧
    ∃ factory v, Builtin.factory? "hostname" = some factory ∧
      factory (.ofList [("message", .text "No host.")]) = .ok v ∧
      v.validate (wrapped 2 (.text "a.b")) = .valid ∧
      v.validate (wrapped 3 (.text "a..b")) = .invalid "No host." := by
  obtain ⟨-, happend, hnested, hwrapped⟩ := coercion_flattens
  have hhost := hwrapped "hostname" (by decide) _ (.ofList [("message", .text "No host.")]) _
    rfl rfl rfl
  refine ⟨?_, ?_, _, _, rfl, rfl, ?_, ?_⟩
  · exact happend _ _ (List.cons_ne_nil _ _) (List.cons_ne_nil _ _)
  · exact hnested _ _ _ (List.cons_ne_nil _ _)
  · exact (hhost "a.b" 2).trans (by decide +kernel)
  · exact (hhost "a..b" 3).trans (by decide +kernel)

end

end Value

end Vetting
