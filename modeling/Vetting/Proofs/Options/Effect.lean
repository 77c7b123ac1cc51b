import Vetting.Proofs.Options.Common

/-!
# What the common options make of settings

`Settings.configuredFrom` says what the common options come to in the order in which they are read.
Once they are accepted the order no longer matters, and what they come to can be told by two
look-ups in the options:

* `Options.allowEmpty?` is the flag they give, and `Options.template?` the template they give for a
  slot.  For the default slot `message` goes before the field of `messages`, because it is applied
  after it.
* `Settings.allowEmpty_of_configuredFrom` and `Settings.find?_messages_of_configuredFrom`: the
  settings are as they were wherever the options give nothing.

The flag is read before everything else and touches nothing else, so adding it to options that do
not have it is the same as setting it afterwards (`Settings.configuredFrom_insert_allowEmpty`), also
where the other options are refused.
-/

namespace Vetting

variable {validator : String} {options : Options}

/-! ## What the options give -/

namespace Value

theorem asBool?_eq_some_iff {v : Value} {b : Bool} : v.asBool? = some b ↔ v = .bool b := by
  cases v with
  | bool c => exact ⟨fun h => congrArg Value.bool (Option.some.inj h), fun h => by rw [h]; rfl⟩
  | _ => exact ⟨fun h => (nomatch h), fun h => (nomatch h)⟩

end Value

namespace Options

/-- The flag that options give. -/
def allowEmpty? (options : Options) : Option Bool :=
  (options.given? "allowEmpty").bind Value.asBool?

/-- The template that options give for a slot: `message` for the default slot, or else the field of
`messages`. -/
def template? (options : Options) (slot : String) : Option String :=
  (if slot = Messages.defaultSlot then (options.given? "message").bind Value.asText? else none).or
    ((options.given? "messages").bind fun overrides => overrides.asObject?.bind fun o =>
      (o.find? slot).bind Value.asText?)

/-- What a decoder reads can also be had by looking at the value given. -/
theorem eq_bind_of_read {α : Type} {key : String} {decode : OptionDecoder α}
    {view : Value → Option α} (hview : ∀ v a, decode v = .ok a ↔ view v = some a) {a : Option α}
    (h : options.read validator key decode = .ok a) : a = (options.given? key).bind view := by
  cases hgiven : options.given? key with
  | none =>
    rw [read_of_given?_eq_none hgiven] at h
    exact (Except.ok.inj h).symm
  | some v =>
    rw [read_of_given?_eq_some hgiven] at h
    cases hv : decode v with
    | error fault => rw [hv] at h; cases h
    | ok b =>
      rw [hv] at h
      rw [← Except.ok.inj h, Option.bind_some, (hview v b).1 hv]

@[simp] theorem given?_insert_self (options : Options) (key : String) {v : Value}
    (hv : v.isNullish = false) : Options.given? (options.insert key v) key = some v := by
  simp [given?, hv]

@[simp] theorem given?_insert_of_ne {key other : String} (h : other ≠ key) (v : Value) :
    Options.given? (options.insert key v) other = options.given? other := by
  simp [given?, h]

end Options

/-! ## Settings with the options applied -/

namespace Settings

variable {s t : Settings}

/-- Overriding puts the texts of the list over the templates that were there. -/
theorem find?_of_overridden {templates : List (String × Value)}
    (hnodup : (templates.map (·.1)).Nodup) {messages after : Messages}
    (h : overridden validator templates messages = .ok after) (slot : String) :
    after.templates.find? slot =
      ((Entries.find? slot templates).bind Value.asText?).or (messages.templates.find? slot) := by
  induction templates generalizing messages with
  | nil =>
    obtain rfl := Except.ok.inj h
    rfl
  | cons head rest ih =>
    obtain ⟨key, v⟩ := head
    obtain ⟨hkey, hrest⟩ := List.nodup_cons.1 hnodup
    cases hv : v.asText? with
    | none =>
      rw [overridden_cons_of_asText?_eq_none hv] at h
      cases h
    | some template =>
      obtain rfl := Value.asText?_eq_some_iff.1 hv
      rw [overridden_cons_text] at h
      rw [ih hrest h, Entries.find?, Messages.find?_set]
      by_cases hslot : slot = key
      · -- the slot is overridden here, and no later entry has it
        have hnone : Entries.find? slot rest = none := by
          rw [Entries.find?_eq_none_iff]
          intro entry hentry heq
          exact hkey (List.mem_map.2 ⟨entry, hentry, heq.trans hslot⟩)
        rw [hnone, if_pos hslot, if_pos hslot]
        rfl
      · rw [if_neg hslot, if_neg hslot]

/-- Whether empty values pass is what the options say, or else what it was. -/
theorem allowEmpty_of_configuredFrom (h : s.configuredFrom validator options = .ok t) :
    t.allowEmpty = options.allowEmpty?.getD s.allowEmpty := by
  obtain ⟨flag, hflag, h⟩ := bind_eq_ok_iff.1 h
  obtain ⟨overrides, -, h⟩ := bind_eq_ok_iff.1 h
  obtain ⟨messages, -, h⟩ := bind_eq_ok_iff.1 h
  obtain ⟨message, -, h⟩ := bind_eq_ok_iff.1 h
  have hview : ∀ v b, OptionDecoder.bool v = .ok b ↔ v.asBool? = some b := fun _ _ => by
    rw [OptionDecoder.bool_eq_ok_iff, Value.asBool?_eq_some_iff]
  rw [← Except.ok.inj h, Options.allowEmpty?, ← Options.eq_bind_of_read hview hflag]

/-- **The template of a slot is the one the options give, or else the one that was there.** -/
theorem find?_messages_of_configuredFrom (h : s.configuredFrom validator options = .ok t)
    (slot : String) :
    t.messages.templates.find? slot =
      (options.template? slot).or (s.messages.templates.find? slot) := by
  obtain ⟨flag, -, h⟩ := bind_eq_ok_iff.1 h
  obtain ⟨overrides, hoverrides, h⟩ := bind_eq_ok_iff.1 h
  obtain ⟨messages, hmessages, h⟩ := bind_eq_ok_iff.1 h
  obtain ⟨message, hmessage, h⟩ := bind_eq_ok_iff.1 h
  have htext : ∀ v b, OptionDecoder.text v = .ok b ↔ v.asText? = some b := fun _ _ => by
    rw [OptionDecoder.text_eq_ok_iff, Value.asText?_eq_some_iff]
  have hfields : Entries.find? slot ((overrides.map fun o => o.fields.entries).getD []) =
      overrides.bind fun o => o.find? slot := by
    cases overrides <;> rfl
  have hnodup : (((overrides.map fun o => o.fields.entries).getD []).map (·.1)).Nodup := by
    cases overrides with
    | none => exact List.nodup_nil
    | some o => exact o.fields.nodup_keys
  have hover := find?_of_overridden hnodup hmessages slot
  rw [hfields, Options.eq_bind_of_read (fun _ _ => OptionDecoder.object_eq_ok_iff) hoverrides,
    Option.bind_assoc, Option.bind_assoc] at hover
  rw [← Except.ok.inj h, Options.template?, ← Options.eq_bind_of_read htext hmessage,
    Option.or_assoc, ← hover]
  cases message with
  | none =>
    show messages.templates.find? slot = _
    split <;> rfl
  | some template =>
    show (messages.set Messages.defaultSlot template).templates.find? slot = _
    rw [Messages.find?_set]
    split <;> rfl

/-! ## Adding the flag -/

/-- **Giving the flag is setting it afterwards**, also as far as errors go. -/
theorem configuredFrom_insert_allowEmpty (h : options.find? "allowEmpty" = none) (flag : Bool) :
    s.configuredFrom validator (options.insert "allowEmpty" (.bool flag)) =
      (s.configuredFrom validator options).map fun t => { t with allowEmpty := flag } := by
  have hgiven : Options.given? (options.insert "allowEmpty" (.bool flag)) "allowEmpty" =
      some (.bool flag) := Options.given?_insert_self _ _ rfl
  have hflag : Options.read (options.insert "allowEmpty" (.bool flag)) validator "allowEmpty"
      OptionDecoder.bool = .ok (some flag) := by
    rw [Options.read_of_given?_eq_some hgiven]
    rfl
  have hnone : options.read validator "allowEmpty" OptionDecoder.bool = .ok none :=
    Options.read_of_given?_eq_none (by rw [Options.given?, h]; rfl)
  have hother : ∀ key, key ≠ "allowEmpty" →
      Options.given? (options.insert "allowEmpty" (.bool flag)) key = options.given? key :=
    fun key hkey => Options.given?_insert_of_ne hkey _
  simp only [configuredFrom, hflag, hnone, Options.read_congr (hother "messages" (by decide)),
    Options.read_congr (hother "message" (by decide)), ok_bind]
  cases options.read validator "messages" OptionDecoder.object with
  | error e => rfl
  | ok overrides =>
    simp only [ok_bind]
    cases overridden validator ((overrides.map fun o => o.fields.entries).getD []) s.messages with
    | error e => rfl
    | ok messages => cases options.read validator "message" OptionDecoder.text <;> simp

end Settings

end Vetting
