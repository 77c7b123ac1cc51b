import Vetting.Proofs.Schema.Report
import Vetting.Proofs.Schema.Rule
import Vetting.Proofs.Validator.AllowEmpty
import Vetting.Regex.Size

/-!
# Required fields with optional rules

The rules of a field that has to be filled in are written in one way: `required` comes first, and
all other rules let empty values pass.  Then an empty value is met by a single message, that of
`required`, however many rules follow and whichever failure is reported; and on any other value the
field works as if `required` were not there and the others were strict.

Both halves rest on one fact about each side.  What `required` rejects are just the empty values
(`Rule.Presence.validate_eq`), and these are just the values that the other validators skip
(`Validator.Fresh.validate_setAllowEmpty`).  So on every value one side has nothing to say, and a
report is made of the rejections alone, whatever the policy (`CompiledField.validate_eq_ofError`).

The rules can have any shape: what counts is the name and the options they come to.
-/

namespace Vetting

variable {r : Registry} {x : Value} {a : Aggregation}

/-! ## Reports by rejections -/

namespace CompiledField

/-- A single rejection is reported under every policy. -/
theorem validate_of_rejections_eq_singleton {f : CompiledField} {message : String}
    (h : rejections f.validators x = [message]) : f.validate x = ⟨false, some message⟩ := by
  rw [validate_eq_ofError, h]
  cases f.aggregation <;> rfl

/-! ## Lenient validators -/

/-- Validators that let empty values pass reject none of them. -/
theorem rejections_lenient_of_empty {vs : List Validator} (hfresh : ∀ v ∈ vs, v.Fresh)
    (hx : x.isEmpty = true) :
    rejections (vs.map fun v => v.setAllowEmpty true) x = [] := by
  rw [rejections, List.filterMap_eq_nil_iff]
  intro lenient hmem
  obtain ⟨v, hv, rfl⟩ := List.mem_map.1 hmem
  rw [(hfresh v hv).validate_setAllowEmpty, hx, Bool.true_and, if_pos rfl]
  rfl

/-- Any other value they reject as they would if they were strict. -/
theorem rejections_lenient_of_not_empty {vs : List Validator} (hfresh : ∀ v ∈ vs, v.Fresh)
    (hx : x.isEmpty = false) :
    rejections (vs.map fun v => v.setAllowEmpty true) x = rejections vs x := by
  rw [rejections, rejections, List.filterMap_map]
  refine List.filterMap_congr fun v hv => ?_
  show ((v.setAllowEmpty true).validate x).error? = _
  rw [(hfresh v hv).validate_setAllowEmpty, hx, Bool.true_and, if_neg Bool.false_ne_true]

end CompiledField

/-! ## The rules -/

/-- A rule for `required` with options that do not let empty values pass. -/
inductive Rule.Presence [Regex.Engine] (r : Registry) : Rule → Prop
  | intro {rule : Rule} {n : String} {o : Options} (h : rule.Asks n o)
      (hfactory : r.factories.find? n = Builtin.factory? "required")
      (hflag : o.find? "allowEmpty" ≠ some (.bool true)) : Presence r rule

/-- A rule for a standard validator that lets empty values pass, and one that asks for the same
without the option. -/
inductive Rule.Optional [Regex.Engine] (r : Registry) : Rule → Rule → Prop
  | intro {optional strict : Rule} {n b : String} {o : Options} {factory : Factory}
      (hoptional : optional.Asks n o) (hstrict : strict.Asks n (o.erase "allowEmpty"))
      (hflag : o.find? "allowEmpty" = some (.bool true))
      (hfactory : r.factories.find? n = some factory) (hstandard : Factory.Standard b factory) :
      Optional r optional strict

theorem Options.getD_allowEmpty?_eq_false {o : Options}
    (h : o.find? "allowEmpty" ≠ some (.bool true)) : o.allowEmpty?.getD false = false := by
  cases hflag : o.allowEmpty? with
  | none => rfl
  | some flag =>
    obtain ⟨w, hgiven, hbool⟩ := Option.bind_eq_some_iff.1 hflag
    obtain rfl := Value.asBool?_eq_some_iff.1 hbool
    obtain ⟨hfind, -⟩ := Option.filter_eq_some_iff.1 hgiven
    cases flag with
    | false => rfl
    | true => exact absurd hfind h

/-- **What `required` rejects are just the empty values**, with its message for them. -/
theorem Rule.Presence.validate_eq [Regex.Engine] {rule : Rule} {v : Validator} (h : rule.Presence r)
    (hv : r.resolve rule = .ok v) (x : Value) :
    v.validate x = if x.isEmpty then .invalid (v.prepare v.message) else .valid := by
  obtain ⟨hasks, hfactory, hflag⟩ := h
  rename_i n o
  rw [hasks.resolve_eq, Registry.create_eq_ok_iff (hfactory.trans rfl)] at hv
  obtain ⟨_, ⟨⟩, hconfigured⟩ := (Recipe.describes_plain Builtin.required).exists_configured hv
  have hcheck : v.check = .required := hconfigured.check
  have hstrict : v.settings.allowEmpty = false :=
    hconfigured.allowEmpty.trans (Options.getD_allowEmpty?_eq_false hflag)
  have hskips : v.skips x = false := by
    rw [Validator.skips_eq (fun ⟨_, h⟩ => nomatch hcheck.symm.trans h), hstrict, Bool.false_and]
  cases hx : x.isEmpty with
  | false =>
    refine Validator.validate_eq_valid_iff.2 (Or.inr ?_)
    rw [hcheck, Check.failure?, Check.passIf, hx]
    rfl
  | true =>
    have hfails : v.FailsFrom x Messages.defaultSlot v.check.reference? := by
      refine ⟨hskips, ?_⟩
      rw [hcheck, Check.failure?, Check.passIf, hx]
      rfl
    exact hfails.validate_eq

/-- **A rule that lets empty values pass resolves to the strict validator with the flag set**, and
the strict one is as it was made. -/
theorem Rule.Optional.resolve_eq [Regex.Engine] {optional strict : Rule}
    (h : Rule.Optional r optional strict) :
    r.resolve optional = (r.resolve strict).map (fun v => v.setAllowEmpty true) ∧
      ∀ v, r.resolve strict = .ok v → v.Fresh := by
  obtain ⟨hoptional, hstrict, hflag, hfactory, hstandard⟩ := h
  rename_i n b o factory
  have hnone : (o.erase "allowEmpty").find? "allowEmpty" = none := by simp
  have hinsert : (o.erase "allowEmpty").insert "allowEmpty" (.bool true) = o := by
    refine Dict.ext_find? fun key => ?_
    by_cases hkey : key = "allowEmpty" <;> simp [hkey, hflag]
  have hcreate := Registry.create_insert_allowEmpty hfactory hstandard hnone true
  rw [hinsert] at hcreate
  rw [hoptional.resolve_eq, hstrict.resolve_eq]
  exact ⟨hcreate, fun v hv => Registry.fresh_of_create hfactory hstandard hnone hv⟩

namespace Registry

/-- Rules that let empty values pass, all resolved. -/
theorem resolveAll_optional [Regex.Engine] {optional strict : List Rule}
    (h : List.Forall₂ (Rule.Optional r) optional strict) {lenient : List Validator}
    (hlenient : r.resolveAll optional = .ok lenient) :
    ∃ vs, r.resolveAll strict = .ok vs ∧ (∀ v ∈ vs, v.Fresh) ∧
      lenient = vs.map fun v => v.setAllowEmpty true := by
  induction h generalizing lenient with
  | nil =>
    obtain rfl := Except.ok.inj hlenient
    exact ⟨[], rfl, List.forall_mem_nil _, rfl⟩
  | cons hrule _ ih =>
    obtain ⟨hresolve, hfresh⟩ := hrule.resolve_eq
    obtain ⟨w, hw, hrest⟩ := bind_eq_ok_iff.1 hlenient
    obtain ⟨ws, hws, hlist⟩ := bind_eq_ok_iff.1 hrest
    obtain rfl := Except.ok.inj hlist
    rw [hresolve] at hw
    obtain ⟨v, hv, rfl⟩ := map_eq_ok_iff.1 hw
    obtain ⟨vs, hvs, hall, rfl⟩ := ih hws
    refine ⟨v :: vs, ?_, List.forall_mem_cons.2 ⟨hfresh v hv, hall⟩, rfl⟩
    rw [resolveAll, hv, ok_bind, hvs]
    rfl

theorem compileField_eq_ok_some_iff {rules : List Rule} {f : CompiledField} :
    r.compileField ⟨some rules⟩ a = .ok (some f) ↔
      ∃ vs, r.resolveAll rules = .ok vs ∧ f = ⟨vs, a⟩ := by
  rw [compileField, map_eq_ok_iff]
  refine exists_congr fun vs => and_congr Iff.rfl ?_
  rw [Option.some_inj, eq_comm]

/-- **A required field with optional rules.**  If its rules are accepted, so are the rules without
`required` and without the option.  On an empty value the field fails with the default message of
`required`, filled in, whatever the other rules are; on every other value its report is that of the
rules without `required` and without the option. -/
theorem compileField_required_optional [Regex.Engine] {presence : Rule}
    {optional strict : List Rule} (hpresence : presence.Presence r)
    (h : List.Forall₂ (Rule.Optional r) optional strict)
    {f : CompiledField} (hf : r.compileField ⟨some (presence :: optional)⟩ a = .ok (some f)) :
    ∃ v g, r.resolve presence = .ok v ∧ r.compileField ⟨some strict⟩ a = .ok (some g) ∧
      ∀ x : Value, (x.Empty → f.validate x = ⟨false, some (v.prepare v.message)⟩) ∧
        (¬ x.Empty → f.validate x = g.validate x) := by
  obtain ⟨validators, hall, rfl⟩ := compileField_eq_ok_some_iff.1 hf
  obtain ⟨v, hv, hrest⟩ := bind_eq_ok_iff.1 hall
  obtain ⟨lenient, hlenient, hlist⟩ := bind_eq_ok_iff.1 hrest
  obtain rfl := Except.ok.inj hlist
  obtain ⟨vs, hvs, hfresh, rfl⟩ := resolveAll_optional h hlenient
  refine ⟨v, ⟨vs, a⟩, hv, compileField_eq_ok_some_iff.2 ⟨vs, hvs, rfl⟩, fun x => ⟨?_, ?_⟩⟩
  · intro hempty
    have hx : x.isEmpty = true := Value.isEmpty_iff.2 hempty
    have hfirst : v.validate x = .invalid (v.prepare v.message) := by
      rw [hpresence.validate_eq hv, hx, if_pos rfl]
    refine CompiledField.validate_of_rejections_eq_singleton ?_
    rw [CompiledField.rejections_cons_of_invalid hfirst,
      CompiledField.rejections_lenient_of_empty hfresh hx]
  · intro hempty
    have hx : x.isEmpty = false := Bool.eq_false_iff.2 fun h => hempty (Value.isEmpty_iff.1 h)
    have hfirst : v.validate x = .valid := by
      rw [hpresence.validate_eq hv, hx, if_neg Bool.false_ne_true]
    rw [CompiledField.validate_eq_ofError, CompiledField.validate_eq_ofError,
      CompiledField.rejections_cons_of_valid hfirst,
      CompiledField.rejections_lenient_of_not_empty hfresh hx]

section

attribute [local instance] Regex.Engine.standard

/-- A number may follow `required` in either of two shapes; the empty text is reported as missing
and not as a wrong type. -/
theorem compileField_required_optional_type :
    ∃ f g, builtins.compileField ⟨some [.name "required",
        .list [.text "type", .ofObject (.ofFields [("type", .text "number"),
          ("allowEmpty", .bool true)])]]⟩ .lastFailure = .ok (some f) ∧
      builtins.compileField ⟨some [.withOptions "type" (.ofList [("type", .text "number")])]⟩
        .lastFailure = .ok (some g) ∧
      f.validate (.text "") = ⟨false, some "Cannot be empty."⟩ ∧
      g.validate (.text "") = ⟨false, some "Expected number, got string."⟩ ∧
      f.validate (.text "x") = g.validate (.text "x") := by
  have hname : "type" ≠ "" := by decide
  have hpresence : Rule.Presence builtins (.name "required") :=
    .intro (.name (by decide)) rfl fun h => nomatch h
  have hoptional : Rule.Optional builtins
      (.list [.text "type", .ofObject (.ofFields [("type", .text "number"),
        ("allowEmpty", .bool true)])])
      (.withOptions "type" (.ofList [("type", .text "number")])) :=
    .intro (Rule.asks_list hname _) (Rule.asks_withOptions_of_find?_eq_none hname rfl) rfl rfl
      (@Factory.Standard.builtin _ "type" _ rfl)
  obtain ⟨v, g, hv, hg, hx⟩ := compileField_required_optional (a := .lastFailure) hpresence
    (.cons hoptional .nil) rfl
  obtain rfl := Except.ok.inj hv
  have hnonempty : ¬ Value.Empty (.text "x") := by
    rw [← Value.isEmpty_iff]
    decide
  refine ⟨_, g, rfl, hg, (hx _).1 .text, ?_, (hx _).2 hnonempty⟩
  cases hg
  decide

end

end Registry

end Vetting
