import Vetting.Validator.Basic
import Vetting.Proofs.Options.Decoders
import Vetting.Proofs.Options.Reading

/-!
# The common options

Every validator takes `allowEmpty`, `messages` and `message`, and reads them last.  This module
tells that part of a reading without its reader: `Settings.configuredFrom` is what the common
options make of settings, and `Settings.denotes_configured` says that the reading means just this.

What the common options are accepted as depends neither on the settings they are applied to nor on
the validator.  It is one condition, `Options.WellFormed` for `Settings.commonForms`, and it serves
the whole catalogue: see `Settings.exists_configuredFrom_eq_ok_iff`.
-/

namespace Vetting

variable {validator : String} {options : Options} {e : ConfigError}

namespace Settings

/-- The common options in the order in which they are read, and what each must be. -/
def commonForms : List (String × (Value → Prop)) := [
  ("allowEmpty", Value.IsBool),
  ("messages", Value.IsTemplates),
  ("message", Value.IsText)]

/-- The names of the common options. -/
def commonKeys : List String := commonForms.map Prod.fst

/-! ## Overriding templates -/

section Override

variable {slot : String} {v : Value} {templates rest : List (String × Value)} {messages : Messages}

/-- The templates after those of `messages`, unless one of these is no text. -/
def overridden (validator : String) (templates : List (String × Value)) (messages : Messages) :
    Except ConfigError Messages :=
  (override validator templates messages).1.map fun _ =>
    (override validator templates messages).2

@[simp] theorem overridden_cons_text (template : String) :
    overridden validator ((slot, .text template) :: rest) messages =
      overridden validator rest (messages.set slot template) := by
  rw [overridden, overridden, override]

theorem overridden_cons_of_asText?_eq_none (h : v.asText? = none) :
    overridden validator ((slot, v) :: rest) messages =
      .error (.invalidOption validator "messages" (.templateNotText slot)) := by
  cases v with
  | text _ => cases h
  | _ => rfl

/-- Templates are accepted exactly when all of them are texts. -/
theorem exists_overridden_eq_ok_iff :
    (∃ after, overridden validator templates messages = .ok after) ↔
      ∀ t ∈ templates, ∃ template, t.2 = .text template := by
  induction templates generalizing messages with
  | nil => exact iff_of_true ⟨messages, rfl⟩ fun _ h => nomatch h
  | cons t rest ih =>
    obtain ⟨slot, v⟩ := t
    rw [List.forall_mem_cons]
    cases hv : v.asText? with
    | none =>
      rw [overridden_cons_of_asText?_eq_none hv]
      refine iff_of_false not_exists_error_eq_ok ?_
      rintro ⟨⟨template, rfl⟩, -⟩
      cases hv
    | some template =>
      obtain rfl := Value.asText?_eq_some_iff.1 hv
      rw [overridden_cons_text, ih]
      exact ⟨fun h => ⟨⟨template, rfl⟩, h⟩, fun h => h.2⟩

theorem neverUnknown_overridden : NeverUnknown (overridden validator templates messages) := by
  induction templates generalizing messages with
  | nil => exact .ok messages
  | cons t rest ih =>
    obtain ⟨slot, v⟩ := t
    cases hv : v.asText? with
    | none =>
      rw [overridden_cons_of_asText?_eq_none hv]
      exact .error id
    | some template =>
      obtain rfl := Value.asText?_eq_some_iff.1 hv
      rw [overridden_cons_text]
      exact ih

end Override

/-! ## What the common options come to -/

/-- Settings with the common options applied: `allowEmpty`, then `messages`, then `message`. -/
def configuredFrom (s : Settings) (validator : String) (options : Options) :
    Except ConfigError Settings := do
  let allowEmpty ← options.read validator "allowEmpty" OptionDecoder.bool
  let overrides ← options.read validator "messages" OptionDecoder.object
  let messages ← overridden validator ((overrides.map fun o => o.fields.entries).getD []) s.messages
  let message ← options.read validator "message" OptionDecoder.text
  return ⟨message.elim messages (messages.set Messages.defaultSlot),
    allowEmpty.getD s.allowEmpty⟩

/-- One run of the reading: its result, and the names it has asked for if it succeeds. -/
theorem run_configured (s : Settings) (reader : OptionReader) :
    (s.configured.run reader).1 = s.configuredFrom reader.validator reader.options ∧
      ∀ t, (s.configured.run reader).1 = .ok t →
        (s.configured.run reader).2 =
          { reader with seen := commonKeys.reverse ++ reader.seen } := by
  rw [ExceptT.run, configured, configure, configuredFrom, OptionReader.read_eq]
  cases reader.options.read reader.validator "allowEmpty" OptionDecoder.bool with
  | error e => exact ⟨rfl, fun _ h => nomatch h⟩
  | ok allowEmpty =>
    dsimp only
    rw [OptionReader.read_eq]
    cases reader.options.read reader.validator "messages" OptionDecoder.object with
    | error e => exact ⟨rfl, fun _ h => nomatch h⟩
    | ok overrides =>
      simp only [ok_bind, overridden]
      generalize override reader.validator _ s.messages = applied
      obtain ⟨verdict, messages⟩ := applied
      cases verdict with
      | error e => exact ⟨rfl, fun _ h => nomatch h⟩
      | ok =>
        dsimp only
        rw [OptionReader.read_eq]
        cases reader.options.read reader.validator "message" OptionDecoder.text with
        | error e => exact ⟨rfl, fun _ h => nomatch h⟩
        | ok message => cases message <;> exact ⟨rfl, fun _ _ => rfl⟩

theorem configuredFrom_congr (s : Settings) {p : Options}
    (h : ∀ key ∈ commonKeys, options.given? key = p.given? key) :
    s.configuredFrom validator options = s.configuredFrom validator p := by
  have hempty : options.given? "allowEmpty" = p.given? "allowEmpty" := h _ (by decide)
  have hmessages : options.given? "messages" = p.given? "messages" := h _ (by decide)
  have hmessage : options.given? "message" = p.given? "message" := h _ (by decide)
  rw [configuredFrom, configuredFrom, Options.read_congr hempty, Options.read_congr hmessages,
    Options.read_congr hmessage]

theorem neverUnknown_configuredFrom (s : Settings) :
    NeverUnknown (s.configuredFrom validator options) :=
  Options.neverUnknown_read.bind fun _ => Options.neverUnknown_read.bind fun _ =>
    neverUnknown_overridden.bind fun _ => Options.neverUnknown_read.bind fun _ => .ok _

/-- **The reading of the common options means what they come to.** -/
theorem denotes_configured (s : Settings) :
    s.configured.Denotes commonKeys s.configuredFrom where
  result reader := (s.run_configured reader).1
  asked reader := (s.run_configured reader).2
  congr_options _ _ _ h := s.configuredFrom_congr h
  known _ _ := s.neverUnknown_configuredFrom

/-- The templates given under `messages` are accepted exactly when they are texts in an object. -/
theorem exists_overrides_iff {s : Settings} :
    (∃ overrides, options.read validator "messages" OptionDecoder.object = .ok overrides ∧
        ∃ after, overridden validator ((overrides.map fun o => o.fields.entries).getD [])
          s.messages = .ok after) ↔
      ∀ v, options.given? "messages" = some v → v.IsTemplates := by
  have htemplates : ∀ overrides : Option Object,
      (∃ after, overridden validator ((overrides.map fun o => o.fields.entries).getD [])
        s.messages = .ok after) ↔
        ∀ o, overrides = some o → ∀ t ∈ o.fields.entries, ∃ template, t.2 = .text template := by
    intro overrides
    rw [exists_overridden_eq_ok_iff]
    cases overrides with
    | none => exact iff_of_true (fun _ h => nomatch h) fun _ h => nomatch h
    | some o => simp only [Option.map_some, Option.getD_some, Option.some.injEq, forall_eq']
  simp only [htemplates]
  refine Options.exists_read_iff fun v => ?_
  simp only [OptionDecoder.object_eq_ok_iff, Prod.forall, Dict.mem_entries_iff]
  rfl

/-- **The common options are accepted exactly when they are well formed.** -/
theorem exists_configuredFrom_eq_ok_iff {s : Settings} :
    (∃ t, s.configuredFrom validator options = .ok t) ↔ options.WellFormed commonForms := by
  have hempty : (∃ a, options.read validator "allowEmpty" OptionDecoder.bool = .ok a) ↔
      ∀ v, options.given? "allowEmpty" = some v → v.IsBool := by
    simp only [Options.exists_read_eq_ok_iff, OptionDecoder.exists_bool_eq_ok_iff]
  have hmessage : (∃ a, options.read validator "message" OptionDecoder.text = .ok a) ↔
      ∀ v, options.given? "message" = some v → v.IsText := by
    simp only [Options.exists_read_eq_ok_iff, OptionDecoder.exists_text_eq_ok_iff]
  rw [commonForms, Options.wellFormed_cons, Options.wellFormed_cons, Options.wellFormed_cons,
    ← hempty, ← hmessage, ← exists_overrides_iff (s := s)]
  constructor
  · rintro ⟨t, h⟩
    obtain ⟨allowEmpty, hallow, h⟩ := bind_eq_ok_iff.1 h
    obtain ⟨overrides, hread, h⟩ := bind_eq_ok_iff.1 h
    obtain ⟨messages, hover, h⟩ := bind_eq_ok_iff.1 h
    obtain ⟨message, hmsg, -⟩ := bind_eq_ok_iff.1 h
    exact ⟨⟨allowEmpty, hallow⟩, ⟨overrides, hread, messages, hover⟩, ⟨message, hmsg⟩,
      Options.wellFormed_nil⟩
  · rintro ⟨⟨allowEmpty, hallow⟩, ⟨overrides, hread, messages, hover⟩, ⟨message, hmsg⟩, -⟩
    simp [configuredFrom, hallow, hread, hover, hmsg]

end Settings

namespace Validator

/-- A validator with the common options applied to its settings. -/
def configuredFrom (v : Validator) (validator : String) (options : Options) :
    Except ConfigError Validator := do
  let settings ← v.settings.configuredFrom validator options
  return { v with settings }

theorem denotes_configured (v : Validator) :
    v.configured.Denotes Settings.commonKeys v.configuredFrom := by
  have h := v.settings.denotes_configured.bind fun settings =>
    Reading.Denotes.pure { v with settings }
  exact h.of_eq (List.append_nil _) fun _ _ => rfl

/-- **Whatever the validator, the common options are accepted under one condition.** -/
theorem exists_configuredFrom_eq_ok_iff {v : Validator} :
    (∃ w, v.configuredFrom validator options = .ok w) ↔
      options.WellFormed Settings.commonForms := by
  rw [configuredFrom, exists_bind_eq_ok_iff, ← Settings.exists_configuredFrom_eq_ok_iff]
  exact ⟨fun ⟨t, ht, _⟩ => ⟨t, ht⟩, fun ⟨t, ht⟩ => ⟨t, ht, _, rfl⟩⟩

end Validator

end Vetting
