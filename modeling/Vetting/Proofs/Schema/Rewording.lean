import Vetting.Proofs.Schema.Report
import Vetting.Proofs.Schema.Rule
import Vetting.Proofs.Validator.Rewording
import Vetting.Regex.Size

/-!
# Rewording the rules of a schema

Messages are there to be read, and nothing depends on them.  A rule may be given other messages, or
none, in any shape that a rule can have; if it was accepted it still is, and the validator it
resolves to judges as before.  For a schema this means that the same fields fail, whichever of its
rules were reworded.

The relation is told from the inside out: `Rule.Reworded`, `FieldDescriptor.Reworded`,
`Schema.Reworded`.  So are its consequences.  Two fields whose validators accept the same values
fail together (`CompiledField.Alike`), and a report that goes on with such fields names the same
ones (`CompiledSchema.alike_collect`, one field at a time).  Which of its failures a field reports
plays no part in it, and nor does it matter whether the names of the fields are distinct.

`Registry.create_reworded` puts this together with what rewording does to a single validator.
-/

namespace Vetting

/-! ## Reworded rules -/

/-- The second rule is the first, or asks for the same standard validator with other messages. -/
inductive Rule.Reworded [Regex.Engine] (r : Registry) : Rule → Rule → Prop
  | same (rule : Rule) : Reworded r rule rule
  | options {before after : Rule} {n b : String} {factory : Factory} {o p : Options}
      (hbefore : before.Asks n o) (hafter : after.Asks n p)
      (hfactory : r.factories.find? n = some factory) (hstandard : Factory.Standard b factory)
      (h : o.Reworded p) : Reworded r before after

/-- A descriptor has its rules reworded one by one. -/
inductive FieldDescriptor.Reworded [Regex.Engine] (r : Registry) :
    FieldDescriptor → FieldDescriptor → Prop
  | unruled : Reworded r ⟨none⟩ ⟨none⟩
  | ruled {before after : List Rule} (h : List.Forall₂ (Rule.Reworded r) before after) :
      Reworded r ⟨some before⟩ ⟨some after⟩

/-- The fields are the same, with reworded rules. -/
def Schema.Reworded [Regex.Engine] (r : Registry) (s t : Schema) : Prop :=
  List.Forall₂ (fun field other => field.1 = other.1 ∧ field.2.Reworded r other.2)
    s.fields t.fields

variable {r : Registry} {a : Aggregation} {x : Value}

/-- **A reworded rule resolves if the rule does**, to a validator that accepts the same values. -/
theorem Rule.Reworded.exists_resolve [Regex.Engine] {rule other : Rule} {v : Validator}
    (h : rule.Reworded r other) (hv : r.resolve rule = .ok v) :
    ∃ w, r.resolve other = .ok w ∧ ∀ x, w.validate x = .valid ↔ v.validate x = .valid := by
  cases h with
  | same => exact ⟨v, hv, fun _ => Iff.rfl⟩
  | options hbefore hafter hfactory hstandard h =>
    rw [hbefore.resolve_eq, Registry.create_eq_ok_iff hfactory] at hv
    obtain ⟨original, -, hv', w, hw, hw'⟩ := hstandard.exists_reworded hv h
    refine ⟨w, ?_, fun x => (hv'.judgesLike hw' h).validate_eq_valid_iff x⟩
    rw [hafter.resolve_eq, Registry.create_eq_ok_iff hfactory]
    exact hw

theorem forall₂_ruledFields [Regex.Engine] {fields others : List (String × FieldDescriptor)}
    (h : List.Forall₂ (fun field other => field.1 = other.1 ∧ field.2.Reworded r other.2)
      fields others) :
    List.Forall₂ (fun field other => field.1 = other.1 ∧
        List.Forall₂ (Rule.Reworded r) field.2 other.2)
      (ruledFields fields) (ruledFields others) := by
  induction h with
  | nil => exact .nil
  | @cons field other fields others hfield _ ih =>
    obtain ⟨name, descriptor⟩ := field
    obtain ⟨_, reworded⟩ := other
    obtain ⟨rfl, hdescriptor⟩ := hfield
    cases hdescriptor with
    | unruled => exact ih
    | ruled hrules => exact .cons ⟨rfl, hrules⟩ ih

/-! ## Fields that fail together -/

/-- The validators of two fields accept the same values, one by one. -/
def CompiledField.Alike (f g : CompiledField) : Prop :=
  List.Forall₂ (fun v w => ∀ x, w.validate x = .valid ↔ v.validate x = .valid)
    f.validators g.validators

theorem CompiledField.Alike.error_eq_none_iff {f g : CompiledField} (h : f.Alike g) (x : Value) :
    (g.validate x).error = none ↔ (f.validate x).error = none := by
  rw [error_validate_eq_none_iff, error_validate_eq_none_iff]
  obtain ⟨validators, _⟩ := f
  obtain ⟨others, _⟩ := g
  show (∀ w ∈ others, w.validate x = .valid) ↔ ∀ v ∈ validators, v.validate x = .valid
  replace h : List.Forall₂ (fun v w => ∀ x, w.validate x = .valid ↔ v.validate x = .valid)
    validators others := h
  induction h with
  | nil => rfl
  | cons hvw _ ih =>
    rw [List.forall_mem_cons, List.forall_mem_cons]
    exact and_congr (hvw x) ih

/-- Compiling reworded rules. -/
theorem Registry.exists_compileRules [Regex.Engine] {field other : String × List Rule}
    {compiled : String × CompiledField}
    (h : field.1 = other.1 ∧ List.Forall₂ (Rule.Reworded r) field.2 other.2)
    (hcompiled : r.compileRules a field = .ok compiled) :
    ∃ reworded, r.compileRules a other = .ok reworded ∧
      compiled.1 = reworded.1 ∧ compiled.2.Alike reworded.2 := by
  obtain ⟨hname, hrules⟩ := h
  obtain ⟨validators, hvalidators, rfl⟩ := map_eq_ok_iff.1 hcompiled
  obtain ⟨others, hothers, halike⟩ := exists_mapM_of_forall₂
    (fun _ _ _ hrule hv => hrule.exists_resolve hv) hrules hvalidators
  exact ⟨_, map_eq_ok_iff.2 ⟨others, hothers, rfl⟩, hname, halike⟩

/-! ## Reports on the same failures -/

/-- Two reports have the same verdict and the same failing fields. -/
structure Report.Alike (p q : Report) : Prop where
  isValid : q.isValid = p.isValid
  failing : ∀ name, name ∈ q.errors.keys ↔ name ∈ p.errors.keys

/-- Whatever the messages, a field that fails in both reports keeps them alike. -/
theorem Report.Alike.fail {p q : Report} (h : p.Alike q) (field message other : String) :
    (p.fail field message).Alike (q.fail field other) where
  isValid := rfl
  failing name := by
    have hkeys : ∀ (d : Dict String) (text : String),
        name ∈ (d.insert field text).keys ↔ name = field ∨ name ∈ d.keys := by
      intro d text
      rw [Dict.mem_keys_iff, Dict.mem_keys_iff]
      by_cases hname : name = field
      · rw [hname]
        exact iff_of_true ⟨text, Dict.find?_insert_self d field text⟩ (Or.inl rfl)
      · rw [or_iff_right hname, Dict.find?_insert_of_ne d hname]
    rw [Report.fail, Report.fail, hkeys, hkeys, h.failing name]

namespace CompiledSchema

/-- **The pass over fields that fail together.**  One field keeps two reports alike, hence all of
them do. -/
theorem alike_collect (x : Value) {fields others : List (String × CompiledField)}
    (h : List.Forall₂ (fun field other => field.1 = other.1 ∧ field.2.Alike other.2)
      fields others) {p q : Report} (hpq : p.Alike q) :
    (collect x fields p).Alike (collect x others q) := by
  induction h generalizing p q with
  | nil => exact hpq
  | @cons field other fields others hfield _ ih =>
    obtain ⟨name, f⟩ := field
    obtain ⟨_, g⟩ := other
    obtain ⟨rfl, halike⟩ := hfield
    have hnone := halike.error_eq_none_iff (x.get name)
    rw [collect, collect]
    cases hf : (f.validate (x.get name)).error with
    | none =>
      rw [hnone.2 hf]
      exact ih hpq
    | some message =>
      obtain ⟨text, htext⟩ := Option.ne_none_iff_exists'.1
        fun hg => Option.some_ne_none message (hf.symm.trans (hnone.1 hg))
      rw [htext]
      exact ih (hpq.fail name message text)

end CompiledSchema

namespace Registry

variable {n b : String} {factory : Factory} {o : Options} {v : Validator}

/-- A schema with reworded rules compiles if the schema does, and reports the same failures. -/
theorem exists_compile_reworded [Regex.Engine] {s t : Schema} {c : CompiledSchema}
    (hc : r.compile s a = .ok c) (h : s.Reworded r t) :
    ∃ d, r.compile t a = .ok d ∧ ∀ x, (c.validate x).Alike (d.validate x) := by
  rw [compile_eq_ok_iff, compileFields_eq_mapM] at hc
  obtain ⟨others, hothers, halike⟩ := exists_mapM_of_forall₂ (f := r.compileRules a)
    (g := r.compileRules a) (fun _ _ _ hfield hcompiled => exists_compileRules hfield hcompiled)
    (forall₂_ruledFields h) hc
  refine ⟨⟨others⟩, ?_, fun x => CompiledSchema.alike_collect x halike ⟨rfl, fun _ => Iff.rfl⟩⟩
  rw [compile_eq_ok_iff, compileFields_eq_mapM]
  exact hothers

/-- **Messages change no verdict, and each of them has its slot.**  Where options without messages
are accepted they are so with messages added, and the same values pass.  A failure comes from the
same slot, with the same references; it reads what the messages have for the slot, where the one
message goes before the templates, or else what the slot had.  The one message by itself leaves the
checks with bounds alone, and the pattern check on what is no text.  In a schema, reworded rules
make neither a field fail nor one pass. -/
theorem create_reworded [Regex.Engine] (hfactory : r.factories.find? n = some factory)
    (hstandard : Factory.Standard b factory) (hv : r.create n o = .ok v) :
    (o.given? "message" = none → o.given? "messages" = none → ∀ wording : Wording,
      ∃ w, r.create n (wording.addTo o) = .ok w ∧ ∀ x,
        (w.validate x = .valid ↔ v.validate x = .valid) ∧
        (∀ text, v.validate x = .invalid text → ∃ slot references template,
          v.FailsFrom x slot references ∧
          v.settings.messages.templates.find? slot = some template ∧
          text = Template.prepare template references ∧
          w.validate x = .invalid
            (Template.prepare ((wording.template? slot).getD template) references)) ∧
        (∀ message references, wording.message = some message →
          v.FailsFrom x Messages.defaultSlot references →
          w.validate x = .invalid (Template.prepare message references)) ∧
        (wording.templates = none → Builtin.factory? b = some factory →
          (b ∈ ["length", "number", "range"] ∨ b = "regexp" ∧ ∀ s, x ≠ .text s) →
          w.validate x = v.validate x)) ∧
    (∀ s t a c, r.compile s a = .ok c → s.Reworded r t → ∃ d, r.compile t a = .ok d ∧
      ∀ x, (d.validate x).isValid = (c.validate x).isValid ∧
        ∀ name, name ∈ (d.validate x).errors.keys ↔ name ∈ (c.validate x).errors.keys) := by
  refine ⟨fun hmessage htemplates wording => ?_, fun s t a c hc h => ?_⟩
  · rw [create_eq_ok_iff hfactory] at hv
    obtain ⟨hworded, w, hw, hreworded⟩ := hstandard.exists_addTo hv hmessage htemplates wording
    refine ⟨w, (create_eq_ok_iff hfactory).2 hw, fun x => ⟨hreworded.validate_eq_valid_iff x,
      fun text htext => ?_, fun message references hgiven hx => ?_, fun hnone hbuiltin hb => ?_⟩⟩
    · obtain ⟨slot, references, hx, htext⟩ :=
        (Validator.validate_eq_invalid_iff hworded.notInline).1 htext
      obtain ⟨template, hfind, hold, hnew⟩ := hreworded.exists_template hworded hx
      rw [hx.validate_eq, ← htext] at hold
      exact ⟨slot, references, template, hx, hfind, Outcome.invalid.inj hold, hnew⟩
    · exact hreworded.validate_eq_of_message hworded hgiven hx
    · obtain ⟨original, htyped, hconfigured⟩ := Builtin.exists_typed_of_factory? hbuiltin hv
      refine hreworded.validate_eq_of_templates_eq_none hworded hnone fun slot references hx => ?_
      exact htyped.slot_ne_default hb (hconfigured.check ▸ hx.failure)
  · obtain ⟨d, hd, halike⟩ := exists_compile_reworded hc h
    exact ⟨d, hd, fun x => ⟨(halike x).isValid, (halike x).failing⟩⟩

/-- Options that ask for a number. -/
def numberOptions : Options := .ofList [("type", .text "number")]

/-- A message, and a template for the same slot, which gives way to it. -/
def numberWording : Wording :=
  ⟨some "Not a \x7b\x7bexpected\x7d\x7d.", some (.ofList [("default", "Unread.")]), .bare⟩

section

attribute [local instance] Regex.Engine.standard

/-- The message is read in the place of the template, with the tokens of the original one, and the
field of a schema fails with it as it did before. -/
theorem create_reworded_type :
    ∃ v w c d, builtins.create "type" numberOptions = .ok v ∧
      builtins.create "type" (numberWording.addTo numberOptions) = .ok w ∧
      v.validate .null = .invalid "Expected number, got object." ∧
      w.validate .null = .invalid "Not a number." ∧
      builtins.compile (Schema.empty.insert "age"
        ⟨some [.list [.text "type", .ofObject ⟨.plain, numberOptions⟩]]⟩) .lastFailure = .ok c ∧
      builtins.compile (Schema.empty.insert "age"
        ⟨some [.withOptions "type" (numberWording.addTo numberOptions)]⟩) .lastFailure = .ok d ∧
      (d.validate .null).isValid = false ∧ "age" ∈ (d.validate .null).errors.keys := by
  have hfactory : builtins.factories.find? "type" = some _ := rfl
  have hstandard := @Factory.Standard.builtin _ "type" _ rfl
  have hname : "type" ≠ "" := by decide
  obtain ⟨hwords, hschema⟩ := create_reworded (r := builtins) (o := numberOptions)
    hfactory hstandard rfl
  obtain ⟨w, hw, hx⟩ := hwords rfl rfl numberWording
  obtain ⟨-, -, hmessage, -⟩ := hx .null
  have hrule : Rule.Reworded builtins (.list [.text "type", .ofObject ⟨.plain, numberOptions⟩])
      (.withOptions "type" (numberWording.addTo numberOptions)) :=
    .options (Rule.asks_list hname ⟨.plain, numberOptions⟩)
      (Rule.asks_withOptions_of_find?_eq_none hname rfl) hfactory hstandard
      (numberWording.reworded_addTo rfl rfl)
  obtain ⟨d, hd, hreport⟩ := hschema
    (Schema.empty.insert "age" ⟨some [.list [.text "type", .ofObject ⟨.plain, numberOptions⟩]]⟩)
    (Schema.empty.insert "age"
      ⟨some [.withOptions "type" (numberWording.addTo numberOptions)]⟩)
    .lastFailure _ rfl (.cons ⟨rfl, .ruled (.cons hrule .nil)⟩ .nil)
  refine ⟨_, w, _, d, rfl, hw, by decide, ?_, rfl, hd, (hreport .null).1.trans (by decide),
    ((hreport .null).2 "age").2 (by decide)⟩
  rw [hmessage _ _ rfl ⟨rfl, rfl⟩]
  decide

end

end Registry

end Vetting
