import Vetting.Proofs.Validator.Origin

/-!
# Rewording a validator

Two of the common options, `message` and `messages`, are about words alone.  Options that differ in
nothing else make validators that judge alike: `Options.Reworded` is the relation between the
options, `Validator.JudgesLike` the one between the validators, and
`Factory.Standard.exists_reworded` leads from the one to the other.

Where they fail they fail from the same slot and with the same references, so what a failure reads
is a matter of the slot's template only.  A `Wording` is what can be added to options that have no
messages yet, and `Wording.template?` what it has to say about a slot; `Validator.RewordedBy` is the
effect of adding it, and `Validator.RewordedBy.exists_template` what becomes of a failure.

Not every failure comes from the default slot.  The checks with bounds have slots of their own for
everything, and the pattern check has one for values that are no texts; there a message has nothing
to say (`Builtin.Typed.slot_ne_default`).
-/

namespace Vetting

variable {name : String} {o p : Options} {v w original : Validator} {x : Value}

/-! ## Options with other messages -/

/-- The second options are the first with other messages, or with none. -/
structure Options.Reworded (o p : Options) : Prop where
  others : ∀ key, key ≠ "message" → key ≠ "messages" → p.find? key = o.find? key
  message : ∀ v, p.given? "message" = some v → v.IsText
  templates : ∀ v, p.given? "messages" = some v → v.IsTemplates

namespace Options.Reworded

theorem given?_eq (h : o.Reworded p) {key : String} (hmessage : key ≠ "message")
    (htemplates : key ≠ "messages") : p.given? key = o.given? key := by
  rw [Options.given?, Options.given?, h.others key hmessage htemplates]

/-- Whether empty values pass is said by neither of the two. -/
theorem given?_allowEmpty_eq (h : o.Reworded p) : p.given? "allowEmpty" = o.given? "allowEmpty" :=
  h.given?_eq (by decide) (by decide)

theorem wellFormed (h : o.Reworded p) (ho : o.WellFormed Settings.commonForms) :
    p.WellFormed Settings.commonForms := by
  rw [Settings.commonForms, Options.wellFormed_cons] at ho ⊢
  refine ⟨fun v hv => ho.1 v (h.given?_allowEmpty_eq ▸ hv), ?_⟩
  simpa using ⟨h.templates, h.message⟩

/-- A name is new to the reworded options only if it is one of the two. -/
theorem mem_commonKeys_or (h : o.Reworded p) {key : String} (hkey : key ∈ p.keys) :
    key ∈ Settings.commonKeys ∨ key ∈ o.keys := by
  by_cases hmessage : key = "message"
  · exact Or.inl (hmessage ▸ by decide)
  by_cases htemplates : key = "messages"
  · exact Or.inl (htemplates ▸ by decide)
  · rw [Dict.mem_keys_iff, h.others key hmessage htemplates] at hkey
    exact Or.inr (Dict.mem_keys_iff.2 hkey)

end Options.Reworded

/-! ## Validators that judge alike -/

namespace Validator

/-- A validator checks what another one checks, and lets the same values pass unchecked. -/
structure JudgesLike (w v : Validator) : Prop where
  check : w.check = v.check
  allowEmpty : w.settings.allowEmpty = v.settings.allowEmpty

namespace JudgesLike

theorem skips_eq (h : w.JudgesLike v) (x : Value) : w.skips x = v.skips x := by
  rw [skips, skips, h.check, h.allowEmpty]

theorem validate_eq_valid_iff (h : w.JudgesLike v) (x : Value) :
    w.validate x = .valid ↔ v.validate x = .valid := by
  rw [Validator.validate_eq_valid_iff, Validator.validate_eq_valid_iff, h.skips_eq, h.check]

/-- **They fail from the same slots, with the same references.** -/
theorem failsFrom (h : w.JudgesLike v) {slot : String} {references : String → Option String}
    (hv : v.FailsFrom x slot references) : w.FailsFrom x slot references :=
  ⟨(h.skips_eq x).trans hv.checked, h.check ▸ hv.failure⟩

/-- Where the templates in use are the same as well, so are the outcomes. -/
theorem validate_eq (h : w.JudgesLike v) (hv : ¬ v.check.IsInline)
    (htemplates : ∀ slot references, v.FailsFrom x slot references →
      w.settings.messages.get slot = v.settings.messages.get slot) :
    w.validate x = v.validate x := by
  cases hx : v.validate x with
  | valid => exact (h.validate_eq_valid_iff x).2 hx
  | invalid text =>
    obtain ⟨slot, references, hfails, rfl⟩ := (validate_eq_invalid_iff hv).1 hx
    rw [(h.failsFrom hfails).validate_eq, htemplates slot references hfails]

end JudgesLike

/-- Rewording is nothing that the check or the flag could notice. -/
theorem Configured.judgesLike (hv : original.Configured o v) (hw : original.Configured p w)
    (h : o.Reworded p) : w.JudgesLike v where
  check := hw.check.trans hv.check.symm
  allowEmpty := by
    rw [hw.allowEmpty, hv.allowEmpty, Options.allowEmpty?, Options.allowEmpty?,
      h.given?_allowEmpty_eq]

end Validator

/-- **Options that are accepted stay so when they are reworded**, and the two validators come from
the same one. -/
theorem Factory.Standard.exists_reworded [Regex.Engine] {factory : Factory}
    (h : Factory.Standard name factory)
    (hv : factory o = .ok v) (hop : o.Reworded p) :
    ∃ original : Validator, original.Fresh ∧ original.Configured o v ∧
      ∃ w, factory p = .ok w ∧ original.Configured p w := by
  obtain ⟨recipe, hproper, reading, hreading, rfl⟩ := h.exists_recipe_proper
  obtain ⟨hmeaning, hknown⟩ := hreading.denotes.ofOptions_eq_ok_iff.1 hv
  obtain ⟨original, hbase, hconfigured⟩ := bind_eq_ok_iff.1 hmeaning
  have hsame : recipe.base name p = recipe.base name o := by
    refine hreading.base_congr fun key hkey => hop.given?_eq ?_ ?_
    · exact fun heq => hproper.disjoint "message" (by decide) (heq ▸ hkey)
    · exact fun heq => hproper.disjoint "messages" (by decide) (heq ▸ hkey)
  obtain ⟨w, hw⟩ := Validator.exists_configuredFrom_eq_ok_iff.2
    (hop.wellFormed (Validator.exists_configuredFrom_eq_ok_iff.1 ⟨v, hconfigured⟩))
  refine ⟨original, hproper.fresh _ _ _ hbase, Validator.configured_of_configuredFrom hconfigured,
    w, hreading.denotes.ofOptions_eq_ok_iff.2 ⟨?_, fun key hkey => ?_⟩,
    Validator.configured_of_configuredFrom hw⟩
  · exact bind_eq_ok_iff.2 ⟨original, hsame.trans hbase, hw⟩
  · rcases hop.mem_commonKeys_or hkey with hcommon | hmem
    · exact List.mem_append_right _ hcommon
    · exact hknown key hmem

/-! ## Adding messages -/

/-- The messages that can be given to a validator: one for the default slot, and templates by slot,
in an object of whatever prototype. -/
structure Wording where
  message : Option String
  templates : Option (Dict String)
  prototype : Prototype

namespace Wording

/-- Templates as the object in which they are given. -/
def overrides (prototype : Prototype) (templates : Dict String) : Object :=
  ⟨prototype, .ofList (templates.entries.map fun entry => (entry.1, .text entry.2))⟩

/-- Options with the messages added. -/
def addTo (wording : Wording) (o : Options) : Options :=
  let o := wording.message.elim o fun message => o.insert "message" (.text message)
  wording.templates.elim o fun templates =>
    o.insert "messages" (.ofObject (overrides wording.prototype templates))

/-- The template that the messages have for a slot.  In the default slot the one message goes before
the templates by slot. -/
def template? (wording : Wording) (slot : String) : Option String :=
  (if slot = Messages.defaultSlot then wording.message else none).or
    (wording.templates.bind fun templates => templates.find? slot)

@[simp] theorem find?_overrides (prototype : Prototype) (templates : Dict String) (slot : String) :
    (overrides prototype templates).find? slot = (templates.find? slot).map .text :=
  Dict.find?_ofList_map templates Value.text slot

theorem isTemplates_overrides (prototype : Prototype) (templates : Dict String) :
    (Value.ofObject (overrides prototype templates)).IsTemplates := by
  refine ⟨_, Value.asObject?_ofObject _, fun slot template h => ?_⟩
  rw [find?_overrides] at h
  obtain ⟨text, -, rfl⟩ := Option.map_eq_some_iff.1 h
  exact ⟨text, rfl⟩

variable (wording : Wording)

theorem find?_addTo {key : String} (hmessage : key ≠ "message") (htemplates : key ≠ "messages") :
    (wording.addTo o).find? key = o.find? key := by
  obtain ⟨message, templates, prototype⟩ := wording
  cases message <;> cases templates <;> simp [addTo, hmessage, htemplates]

theorem given?_message_addTo (ho : o.given? "message" = none) :
    (wording.addTo o).given? "message" = wording.message.map .text := by
  obtain ⟨message, templates, prototype⟩ := wording
  cases message <;> cases templates <;> simp [addTo, ho]

theorem given?_messages_addTo (ho : o.given? "messages" = none) :
    (wording.addTo o).given? "messages" =
      wording.templates.map fun templates => .ofObject (overrides wording.prototype templates) := by
  obtain ⟨message, templates, prototype⟩ := wording
  cases message <;> cases templates <;> simp [addTo, ho]

theorem reworded_addTo (hmessage : o.given? "message" = none)
    (htemplates : o.given? "messages" = none) : o.Reworded (wording.addTo o) where
  others _ hkey hother := wording.find?_addTo hkey hother
  message v hv := by
    rw [wording.given?_message_addTo hmessage] at hv
    obtain ⟨text, -, rfl⟩ := Option.map_eq_some_iff.1 hv
    exact ⟨text, rfl⟩
  templates v hv := by
    rw [wording.given?_messages_addTo htemplates] at hv
    obtain ⟨templates, -, rfl⟩ := Option.map_eq_some_iff.1 hv
    exact isTemplates_overrides _ _

/-- What the options with the messages give for a slot is what the messages have for it. -/
theorem template?_addTo (hmessage : o.given? "message" = none)
    (htemplates : o.given? "messages" = none) (slot : String) :
    (wording.addTo o).template? slot = wording.template? slot := by
  have htext : ∀ message : Option String,
      (message.map Value.text).bind Value.asText? = message := fun message => by
    cases message <;> rfl
  rw [Options.template?, wording.given?_message_addTo hmessage,
    wording.given?_messages_addTo htemplates, htext, template?]
  congr 1
  cases wording.templates with
  | none => rfl
  | some templates =>
    simp [htext]

end Wording

/-- Options without messages have no template to give. -/
theorem Options.template?_eq_none (hmessage : o.given? "message" = none)
    (htemplates : o.given? "messages" = none) (slot : String) : o.template? slot = none := by
  rw [template?, hmessage, htemplates]
  split <;> rfl

/-! ## What added messages do -/

namespace Validator

/-- The second validator is the first one reworded: it judges as the first, and has the new
templates over those of the first. -/
structure RewordedBy (wording : Wording) (v w : Validator) : Prop extends w.JudgesLike v where
  templates : ∀ slot, w.settings.messages.templates.find? slot =
    (wording.template? slot).or (v.settings.messages.templates.find? slot)

namespace RewordedBy

variable {wording : Wording} {slot : String} {references : String → Option String}

/-- **A failure keeps its slot and its references.**  It reads what the messages have for the slot,
or else what it read before. -/
theorem exists_template (h : v.RewordedBy wording w) (hv : v.Worded)
    (hx : v.FailsFrom x slot references) : ∃ template,
      v.settings.messages.templates.find? slot = some template ∧
      v.validate x = .invalid (Template.prepare template references) ∧
      w.validate x = .invalid
        (Template.prepare ((wording.template? slot).getD template) references) := by
  obtain ⟨template, htemplate⟩ := hv.templates slot (hx.mem_slots hv.notInline)
  refine ⟨template, htemplate, ?_, ?_⟩
  · rw [hx.validate_eq, Messages.get, htemplate]
    rfl
  · rw [(h.failsFrom hx).validate_eq, Messages.get, h.templates, htemplate]
    cases wording.template? slot <;> rfl

/-- The one message is what the default slot reads, whatever the templates say. -/
theorem validate_eq_of_message (h : v.RewordedBy wording w) (hv : v.Worded) {message : String}
    (hmessage : wording.message = some message)
    (hx : v.FailsFrom x Messages.defaultSlot references) :
    w.validate x = .invalid (Template.prepare message references) := by
  obtain ⟨template, -, -, hnew⟩ := h.exists_template hv hx
  rw [hnew, Wording.template?, if_pos rfl, hmessage]
  rfl

/-- The one message by itself changes nothing but failures from the default slot. -/
theorem validate_eq_of_templates_eq_none (h : v.RewordedBy wording w) (hv : v.Worded)
    (htemplates : wording.templates = none)
    (hslot : ∀ slot references, v.FailsFrom x slot references → slot ≠ Messages.defaultSlot) :
    w.validate x = v.validate x := by
  refine h.validate_eq hv.notInline fun slot references hx => ?_
  rw [Messages.get, Messages.get, h.templates, Wording.template?,
    if_neg (hslot slot references hx), htemplates]
  rfl

end RewordedBy

end Validator

/-- **Messages added to options are words added to the validator.** -/
theorem Factory.Standard.exists_addTo [Regex.Engine] {factory : Factory}
    (h : Factory.Standard name factory)
    (hv : factory o = .ok v) (hmessage : o.given? "message" = none)
    (htemplates : o.given? "messages" = none) (wording : Wording) :
    v.Worded ∧ ∃ w, factory (wording.addTo o) = .ok w ∧ v.RewordedBy wording w := by
  have hop := wording.reworded_addTo hmessage htemplates
  obtain ⟨original, horiginal, hv', w, hw, hw'⟩ := h.exists_reworded hv hop
  refine ⟨hv'.worded horiginal.toWorded, w, hw, hv'.judgesLike hw' hop, fun slot => ?_⟩
  rw [hw'.templates, hv'.templates, wording.template?_addTo hmessage htemplates,
    Options.template?_eq_none hmessage htemplates, Option.none_or]

/-! ## What a message has nothing to say about -/

namespace Builtin

/-- **Failures from other slots than the default one**: all of those of a check with bounds, and
those of a pattern check on what is no text. -/
theorem Typed.slot_ne_default (h : Typed name v) {slot : String}
    {references : String → Option String}
    (hname : name ∈ ["length", "number", "range"] ∨ name = "regexp" ∧ ∀ s, x ≠ .text s)
    (hfailure : v.check.failure? x = some (.slot slot references)) :
    slot ≠ Messages.defaultSlot := by
  have hlisted : name ∈ ["length", "number", "range", "regexp"] := by
    rcases hname with hname | ⟨rfl, -⟩
    · exact List.mem_append_left ["regexp"] hname
    · decide
  have hmem : slot ∈ v.check.slots := Check.mem_slots_of_failure hfailure h.fresh.notInline
  cases h with
  | length h =>
    rw [(eq_bounded_of_length h).1] at hmem
    exact ne_of_mem_of_not_mem hmem (show Messages.defaultSlot ∉ lengthSlots by decide)
  | number min max =>
    exact ne_of_mem_of_not_mem hmem (show Messages.defaultSlot ∉ numberSlots by decide)
  | range bounds =>
    obtain rfl := List.mem_singleton.1 hmem
    cases bounds with
    | oneOf values => exact show "in" ≠ Messages.defaultSlot by decide
    | between start stop => exact show "between" ≠ Messages.defaultSlot by decide
  | regexp pattern =>
    rcases hname with hname | ⟨-, hx⟩
    · exact absurd hname (by decide)
    · have hbadType : (Check.regexp pattern).failure? x = _ := Check.failure?_regexp_of_not_text hx
      cases hbadType.symm.trans hfailure
      decide
  | required | type _ | instanceOf _ | boolean _ _ | url _ _ _ | email _ | ip _ _ | hostname | date
  | time | datetime => exact absurd hlisted (by decide)

end Builtin

end Vetting
