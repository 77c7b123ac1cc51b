import Vetting.Proofs.Options.Effect

/-!
# Where the common options stop

`Settings.configure` changes settings step by step and stops at the first option that it refuses;
what it has applied by then stays.  `Settings.Configures` lists the five ways in which this can end,
each with the error, the settings and the names that have been asked for.  Templates are given by
look-up, so each of them is either overridden or as it was.  `Settings.configure_eq_iff` says that
`configure` ends as is listed and not otherwise.

Overriding templates is a loop that may stop in its middle.  Because it goes through the slots in
ascending order, the templates it has replaced by then are those of the slots below the one that it
stops at (`Settings.exists_override_eq_error`).
-/

namespace Vetting

variable {validator key : String} {options : Options}

/-- Templates with the same look-ups are the same. -/
theorem Messages.ext_find? {m n : Messages}
    (h : ∀ slot, m.templates.find? slot = n.templates.find? slot) : m = n := by
  cases m
  cases n
  rw [mk.injEq]
  exact Dict.ext_find? h

/-! ## Reads -/

namespace OptionDecoder

variable {v : Value}

theorem bool_eq_error (h : ¬ v.IsBool) : bool v = .error (.mistyped .bool v) := by
  cases v with
  | bool b => exact absurd ⟨b, rfl⟩ h
  | _ => rfl

theorem text_eq_error (h : ¬ v.IsText) : text v = .error (.mistyped .text v) := by
  cases v with
  | text s => exact absurd ⟨s, rfl⟩ h
  | _ => rfl

theorem object_eq_error (h : v.asObject? = none) : object v = .error (.mistyped .object v) := by
  cases v with
  | object prototype fields => cases h
  | _ => rfl

end OptionDecoder

namespace OptionReader

variable {α : Type} {decode : OptionDecoder α} {reader : OptionReader}

/-- The reader after it has been asked for some names, the last one first. -/
def asked (reader : OptionReader) (keys : List String) : OptionReader :=
  { reader with seen := keys ++ reader.seen }

/-- A read of an option that is missing or can be taken. -/
theorem read_of_view (view : Value → Option α) (hview : ∀ v a, decode v = .ok a ↔ view v = some a)
    (h : ∀ v, reader.options.given? key = some v → ∃ a, view v = some a) :
    reader.read key decode =
      (.ok ((reader.options.given? key).bind view), reader.asked [key]) := by
  rw [read_eq]
  cases hgiven : reader.options.given? key with
  | none =>
    rw [Options.read_of_given?_eq_none hgiven]
    rfl
  | some v =>
    obtain ⟨a, ha⟩ := h v hgiven
    rw [Options.read_of_given?_eq_some hgiven, (hview v a).2 ha, Option.bind_some, ha]
    rfl

/-- A read of an option that is refused. -/
theorem read_of_refused {v : Value} {fault : OptionFault}
    (hgiven : reader.options.given? key = some v) (h : decode v = .error fault) :
    reader.read key decode =
      (.error (.invalidOption reader.validator key fault), reader.asked [key]) := by
  rw [read_eq, Options.read_of_given?_eq_some hgiven, h]
  rfl

end OptionReader

/-! ## Overriding templates -/

namespace Options

/-- The fields of `messages`, none if it is missing or no object. -/
def overrides (options : Options) : Dict Value :=
  ((options.given? "messages").bind Value.asObject?).elim .empty Object.fields

/-- The template that `messages` gives for a slot. -/
def override? (options : Options) (slot : String) : Option String :=
  (options.overrides.find? slot).bind Value.asText?

/-- A slot to which `messages` gives no text, and the least such. -/
structure LeastRefused (options : Options) (slot : String) : Prop where
  notText : ∃ v, options.overrides.find? slot = some v ∧ ¬ v.IsText
  isText : ∀ other v, options.overrides.find? other = some v → other < slot → v.IsText

theorem entries_overrides (options : Options) :
    (((options.given? "messages").bind Value.asObject?).map fun o => o.fields.entries).getD [] =
      options.overrides.entries := by
  rw [overrides]
  cases (options.given? "messages").bind Value.asObject? <;> rfl

/-- Templates in an object are all texts. -/
theorem exists_text_of_mem_overrides
    (h : ∀ v, options.given? "messages" = some v → v.IsTemplates) :
    ∀ t ∈ options.overrides.entries, ∃ template, t.2 = .text template := by
  intro t ht
  rw [overrides] at ht
  cases hgiven : options.given? "messages" with
  | none =>
    rw [hgiven] at ht
    cases ht
  | some v =>
    obtain ⟨o, ho, htexts⟩ := h v hgiven
    rw [hgiven, Option.bind_some, ho] at ht
    exact htexts t.1 t.2 (Dict.mem_entries_iff.1 ht)

theorem overrides_of_asObject? {v : Value} {o : Object}
    (hgiven : options.given? "messages" = some v)
    (ho : v.asObject? = some o) : options.overrides = o.fields := by
  rw [overrides, hgiven, Option.bind_some, ho]
  rfl

/-- Unless all overrides are texts, one of them is the first that is not. -/
theorem exists_leastRefused_or (options : Options) : (∃ slot, options.LeastRefused slot) ∨
    ∀ slot v, options.overrides.find? slot = some v → v.IsText := by
  let refused (slot : String) : Bool := (options.override? slot).isNone
  have hrefused : ∀ slot v, options.overrides.find? slot = some v →
      (refused slot = true ↔ ¬ v.IsText) := by
    intro slot v hv
    have htext : options.override? slot = v.asText? := by rw [override?, hv, Option.bind_some]
    have hiff : (∃ s, v.asText? = some s) ↔ v.IsText :=
      exists_congr fun _ => Value.asText?_eq_some_iff
    show (options.override? slot).isNone = true ↔ ¬ v.IsText
    rw [← hiff, htext, Option.isNone_iff_eq_none, Option.eq_none_iff_forall_ne_some, not_exists]
  cases hfound : options.overrides.keys.find? refused with
  | some slot =>
    obtain ⟨hmem, hslot, hleast⟩ := Dict.find?_keys_eq_some_iff.1 hfound
    obtain ⟨v, hv⟩ := Dict.mem_keys_iff.1 hmem
    refine Or.inl ⟨slot, ⟨v, hv, (hrefused slot v hv).1 hslot⟩, fun other w hw hlt => ?_⟩
    by_contra hnot
    exact hleast other (Dict.mem_keys_iff.2 ⟨w, hw⟩) ((hrefused other w hw).2 hnot) hlt
  | none =>
    refine Or.inr fun slot v hv => ?_
    by_contra hnot
    exact List.find?_eq_none.1 hfound slot (Dict.mem_keys_iff.2 ⟨v, hv⟩)
      ((hrefused slot v hv).2 hnot)

end Options

namespace Settings

section Override

variable {before rest templates : List (String × Value)} {messages after : Messages}

theorem overridden_eq_ok_iff : overridden validator templates messages = .ok after ↔
    override validator templates messages = (.ok (), after) := by
  rw [overridden]
  obtain ⟨verdict, reached⟩ := override validator templates messages
  cases verdict with
  | error e =>
    refine iff_of_false (fun h => ?_) fun h => ?_
    · cases h
    · cases h
  | ok =>
    constructor
    · intro h
      rw [← Except.ok.inj h]
    · intro h
      rw [← (Prod.mk.inj h).2]
      rfl

/-- Texts are put over the templates that were there. -/
theorem exists_override_eq_ok (validator : String) (hnodup : (templates.map (·.1)).Nodup)
    (h : ∀ t ∈ templates, ∃ template, t.2 = .text template) (messages : Messages) :
    ∃ after, override validator templates messages = (.ok (), after) ∧
      ∀ slot, after.templates.find? slot =
        ((Entries.find? slot templates).bind Value.asText?).or
          (messages.templates.find? slot) := by
  have haccepted : ∃ after, overridden validator templates messages = .ok after :=
    exists_overridden_eq_ok_iff.2 h
  obtain ⟨after, hafter⟩ := haccepted
  exact ⟨after, overridden_eq_ok_iff.1 hafter, find?_of_overridden hnodup hafter⟩

/-- The loop goes on behind entries that it takes. -/
theorem override_append (h : override validator before messages = (.ok (), after)) :
    override validator (before ++ rest) messages = override validator rest after := by
  induction before generalizing messages with
  | nil => rw [List.nil_append, (Prod.mk.inj h).2]
  | cons t before ih =>
    obtain ⟨slot, v⟩ := t
    cases v with
    | text template =>
      rw [override] at h
      rw [List.cons_append, override, ih h]
    | _ => cases h

/-- **At the least slot that is given no text the templates below it have been replaced.** -/
theorem exists_override_eq_error (validator : String) {slot : String}
    (h : options.LeastRefused slot) (messages : Messages) :
    ∃ after, override validator options.overrides.entries messages =
        (.error (.invalidOption validator "messages" (.templateNotText slot)), after) ∧
      ∀ other, after.templates.find? other =
        (if other < slot then options.override? other else none).or
          (messages.templates.find? other) := by
  obtain ⟨⟨v, hv, hnot⟩, hbelow⟩ := h
  obtain ⟨before, behind, hsplit⟩ := List.append_of_mem (Dict.mem_entries_iff.2 hv)
  -- the keys ascend, so what stands in front of the slot is what lies below it
  have hasc := options.overrides.ascending
  have hnodup := options.overrides.nodup_keys
  rw [hsplit] at hasc
  rw [Dict.keys, hsplit, List.map_append] at hnodup
  have htexts : ∀ t ∈ before, ∃ template, t.2 = .text template := by
    intro t ht
    have hmem : t ∈ options.overrides.entries := hsplit ▸ List.mem_append_left _ ht
    have hlt : t.1 < slot := (List.pairwise_append.1 hasc).2.2 t ht _ List.mem_cons_self
    exact hbelow t.1 t.2 (Dict.mem_entries_iff.1 hmem) hlt
  obtain ⟨after, hafter, hfind⟩ := exists_override_eq_ok validator
    (List.nodup_append.1 hnodup).1 htexts messages
  refine ⟨after, ?_, fun other => ?_⟩
  · rw [hsplit, override_append hafter]
    cases v with
    | text template => exact absurd ⟨template, rfl⟩ hnot
    | _ => rfl
  · rw [hfind, Entries.find?_of_split hasc, ← hsplit, Options.override?, Dict.find?]
    split <;> rfl

end Override

/-! ## Configuring -/

/-- How configuring settings ends: with which error if any, which settings, and which names asked
for. -/
inductive Configures (s : Settings) (reader : OptionReader) :
    Except ConfigError Unit × Settings × OptionReader → Prop
  /-- `allowEmpty` is refused, and nothing has changed. -/
  | flagRefused {v : Value} (hgiven : reader.options.given? "allowEmpty" = some v)
      (hv : ¬ v.IsBool) :
      Configures s reader
        (.error (.invalidOption reader.validator "allowEmpty" (.mistyped .bool v)), s,
          reader.asked ["allowEmpty"])
  /-- `messages` is no object, and only the flag may have changed. -/
  | objectRefused {v : Value}
      (hflag : ∀ v, reader.options.given? "allowEmpty" = some v → v.IsBool)
      (hgiven : reader.options.given? "messages" = some v) (hv : v.asObject? = none) :
      Configures s reader
        (.error (.invalidOption reader.validator "messages" (.mistyped .object v)),
          ⟨s.messages, reader.options.allowEmpty?.getD s.allowEmpty⟩,
          reader.asked ["messages", "allowEmpty"])
  /-- A template of `messages` is no text, and those of lesser slots have been applied. -/
  | templateRefused {slot : String} {messages : Messages}
      (hflag : ∀ v, reader.options.given? "allowEmpty" = some v → v.IsBool)
      (hobject : ∀ v, reader.options.given? "messages" = some v → ∃ o, v.asObject? = some o)
      (hslot : reader.options.LeastRefused slot)
      (hmessages : ∀ other, messages.templates.find? other =
        (if other < slot then reader.options.override? other else none).or
          (s.messages.templates.find? other)) :
      Configures s reader
        (.error (.invalidOption reader.validator "messages" (.templateNotText slot)),
          ⟨messages, reader.options.allowEmpty?.getD s.allowEmpty⟩,
          reader.asked ["messages", "allowEmpty"])
  /-- `message` is refused, and everything else has been applied. -/
  | messageRefused {v : Value} {messages : Messages}
      (hflag : ∀ v, reader.options.given? "allowEmpty" = some v → v.IsBool)
      (htemplates : ∀ v, reader.options.given? "messages" = some v → v.IsTemplates)
      (hgiven : reader.options.given? "message" = some v) (hv : ¬ v.IsText)
      (hmessages : ∀ other, messages.templates.find? other =
        (reader.options.override? other).or (s.messages.templates.find? other)) :
      Configures s reader
        (.error (.invalidOption reader.validator "message" (.mistyped .text v)),
          ⟨messages, reader.options.allowEmpty?.getD s.allowEmpty⟩,
          reader.asked ["message", "messages", "allowEmpty"])
  /-- Everything has been applied, `message` last. -/
  | applied {messages : Messages}
      (hflag : ∀ v, reader.options.given? "allowEmpty" = some v → v.IsBool)
      (htemplates : ∀ v, reader.options.given? "messages" = some v → v.IsTemplates)
      (hmessage : ∀ v, reader.options.given? "message" = some v → v.IsText)
      (hmessages : ∀ other, messages.templates.find? other =
        (if other = Messages.defaultSlot then
            (reader.options.given? "message").bind Value.asText? else none).or
          ((reader.options.override? other).or (s.messages.templates.find? other))) :
      Configures s reader
        (.ok (), ⟨messages, reader.options.allowEmpty?.getD s.allowEmpty⟩,
          reader.asked ["message", "messages", "allowEmpty"])

variable {s : Settings} {reader : OptionReader}

/-- The flag is read first. -/
theorem read_allowEmpty (hflag : ∀ v, reader.options.given? "allowEmpty" = some v → v.IsBool) :
    reader.read "allowEmpty" OptionDecoder.bool =
      (.ok reader.options.allowEmpty?, reader.asked ["allowEmpty"]) := by
  refine OptionReader.read_of_view Value.asBool? (fun v b => ?_) fun v hv => ?_
  · rw [OptionDecoder.bool_eq_ok_iff, Value.asBool?_eq_some_iff]
  · obtain ⟨b, rfl⟩ := hflag v hv
    exact ⟨b, rfl⟩

/-- An object under `messages` is read next. -/
theorem read_messages
    (hobject : ∀ v, reader.options.given? "messages" = some v → ∃ o, v.asObject? = some o) :
    (reader.asked ["allowEmpty"]).read "messages" OptionDecoder.object =
      (.ok ((reader.options.given? "messages").bind Value.asObject?),
        reader.asked ["messages", "allowEmpty"]) :=
  OptionReader.read_of_view Value.asObject? (fun _ _ => OptionDecoder.object_eq_ok_iff) hobject

/-- Templates that are texts in an object are applied, and then `message` is read. -/
theorem exists_override_of_isTemplates
    (htemplates : ∀ v, reader.options.given? "messages" = some v → v.IsTemplates)
    (messages : Messages) :
    ∃ after, override reader.validator reader.options.overrides.entries messages =
        (.ok (), after) ∧
      ∀ slot, after.templates.find? slot =
        (reader.options.override? slot).or (messages.templates.find? slot) :=
  exists_override_eq_ok reader.validator reader.options.overrides.nodup_keys
    (Options.exists_text_of_mem_overrides htemplates) messages

theorem exists_asObject?_of_isTemplates
    (htemplates : ∀ v, reader.options.given? "messages" = some v → v.IsTemplates) (v : Value)
    (hgiven : reader.options.given? "messages" = some v) : ∃ o, v.asObject? = some o := by
  obtain ⟨o, ho, -⟩ := htemplates v hgiven
  exact ⟨o, ho⟩

/-- **What is listed is what `configure` comes to.** -/
theorem Configures.configure_eq {result : Except ConfigError Unit × Settings × OptionReader}
    (h : s.Configures reader result) : s.configure reader = result := by
  have hname : (reader.asked ["messages", "allowEmpty"]).validator = reader.validator := rfl
  cases h with
  | flagRefused hgiven hv =>
    rw [configure, OptionReader.read_of_refused hgiven (OptionDecoder.bool_eq_error hv)]
  | objectRefused hflag hgiven hv =>
    have hread : (reader.asked ["allowEmpty"]).read "messages" OptionDecoder.object = _ :=
      OptionReader.read_of_refused hgiven (OptionDecoder.object_eq_error hv)
    simp only [configure, read_allowEmpty hflag, hread]
    rfl
  | @templateRefused slot messages hflag hobject hslot hmessages =>
    obtain ⟨after, hafter, hfind⟩ :=
      exists_override_eq_error reader.validator hslot s.messages
    obtain rfl : after = messages :=
      Messages.ext_find? fun other => (hfind other).trans (hmessages other).symm
    simp only [configure, read_allowEmpty hflag, read_messages hobject,
      reader.options.entries_overrides, hname, hafter]
  | @messageRefused v messages hflag htemplates hgiven hv hmessages =>
    obtain ⟨after, hafter, hfind⟩ := exists_override_of_isTemplates htemplates s.messages
    obtain rfl : after = messages :=
      Messages.ext_find? fun other => (hfind other).trans (hmessages other).symm
    have hread : (reader.asked ["messages", "allowEmpty"]).read "message" OptionDecoder.text = _ :=
      OptionReader.read_of_refused hgiven (OptionDecoder.text_eq_error hv)
    simp only [configure, read_allowEmpty hflag,
      read_messages (exists_asObject?_of_isTemplates htemplates),
      reader.options.entries_overrides, hname, hafter, hread]
    rfl
  | @applied messages hflag htemplates hmessage hmessages =>
    obtain ⟨after, hafter, hfind⟩ := exists_override_of_isTemplates htemplates s.messages
    have hread : (reader.asked ["messages", "allowEmpty"]).read "message" OptionDecoder.text =
        (.ok ((reader.options.given? "message").bind Value.asText?),
          reader.asked ["message", "messages", "allowEmpty"]) :=
      OptionReader.read_of_view Value.asText?
        (fun _ _ => by rw [OptionDecoder.text_eq_ok_iff, Value.asText?_eq_some_iff])
        fun v hv => (hmessage v hv).imp fun _ => Value.asText?_eq_some_iff.2
    simp only [configure, read_allowEmpty hflag,
      read_messages (exists_asObject?_of_isTemplates htemplates),
      reader.options.entries_overrides, hname, hafter, hread]
    cases hgiven : (reader.options.given? "message").bind Value.asText? with
    | none =>
      obtain rfl : after = messages := Messages.ext_find? fun other => by
        rw [hfind, hmessages, hgiven, ite_self, Option.none_or]
      rfl
    | some template =>
      obtain rfl : after.set Messages.defaultSlot template = messages :=
        Messages.ext_find? fun other => by
          rw [Messages.find?_set, hfind, hmessages, hgiven]
          split <;> rfl
      rfl

/-- The list has an entry for all options. -/
theorem exists_configures (s : Settings) (reader : OptionReader) :
    ∃ result, s.Configures reader result := by
  -- one split for each stage: the case in which it stops comes first
  by_cases hflag : ∀ v, reader.options.given? "allowEmpty" = some v → v.IsBool
  swap
  · simp only [not_forall] at hflag
    obtain ⟨v, hgiven, hv⟩ := hflag
    exact ⟨_, .flagRefused hgiven hv⟩
  by_cases hobject : ∀ v, reader.options.given? "messages" = some v → ∃ o, v.asObject? = some o
  swap
  · simp only [not_forall] at hobject
    obtain ⟨v, hgiven, hv⟩ := hobject
    exact ⟨_, .objectRefused hflag hgiven (Option.eq_none_iff_forall_ne_some.2 (not_exists.1 hv))⟩
  rcases reader.options.exists_leastRefused_or with ⟨slot, hslot⟩ | htexts
  · obtain ⟨messages, -, hmessages⟩ :=
      exists_override_eq_error reader.validator hslot s.messages
    exact ⟨_, .templateRefused hflag hobject hslot hmessages⟩
  have htemplates : ∀ v, reader.options.given? "messages" = some v → v.IsTemplates := by
    intro v hgiven
    obtain ⟨o, ho⟩ := hobject v hgiven
    rw [Options.overrides_of_asObject? hgiven ho] at htexts
    exact ⟨o, ho, htexts⟩
  obtain ⟨messages, -, hmessages⟩ := exists_override_of_isTemplates htemplates s.messages
  by_cases hmessage : ∀ v, reader.options.given? "message" = some v → v.IsText
  swap
  · simp only [not_forall] at hmessage
    obtain ⟨v, hgiven, hv⟩ := hmessage
    exact ⟨_, .messageRefused hflag htemplates hgiven hv hmessages⟩
  have hall : ∃ all : Messages, ∀ other, all.templates.find? other =
      (if other = Messages.defaultSlot then
          (reader.options.given? "message").bind Value.asText? else none).or
        ((reader.options.override? other).or (s.messages.templates.find? other)) := by
    cases (reader.options.given? "message").bind Value.asText? with
    | none => exact ⟨messages, fun other => by rw [ite_self, Option.none_or, hmessages]⟩
    | some template =>
      refine ⟨messages.set Messages.defaultSlot template, fun other => ?_⟩
      rw [Messages.find?_set, hmessages]
      split <;> rfl
  obtain ⟨all, hall⟩ := hall
  exact ⟨_, .applied hflag htemplates hmessage hall⟩

/-- **Configuring settings ends in one of five ways, and the options tell in which.**  The reader,
which need not be a new one, is asked for `allowEmpty`, `messages` and `message`.  The flag is
applied first, then the templates of `messages` by ascending slot, and then `message` to the default
slot.

* A flag that is no truth value is refused, and the settings are as they were.
* `messages` that is no object is refused, and only the flag may have changed.
* The least slot of `messages` that has no text, null included, is refused; the templates of lesser
  slots have been applied, those of other slots and `message` have not.
* A `message` that is no text is refused, and everything else has been applied.
* Otherwise there is no error, and a template is the one that `message` gives for the default slot,
  or else the one that `messages` gives, or else the one that was there. -/
theorem configure_eq_iff (s : Settings) (reader : OptionReader)
    (result : Except ConfigError Unit × Settings × OptionReader) :
    s.configure reader = result ↔ s.Configures reader result := by
  constructor
  · rintro rfl
    obtain ⟨result, hresult⟩ := exists_configures s reader
    exact hresult.configure_eq ▸ hresult
  · exact Configures.configure_eq

/-- Templates on both sides of a null, behind which stands a message. -/
theorem configure_eq_iff_null_template :
    let reader : OptionReader := .ofOptions "type" (.ofList [("allowEmpty", .bool true),
      ("messages", .object .plain [("a", .text "A"), ("default", .null), ("z", .text "Z")]),
      ("message", .text "M")])
    Configures ⟨.single "Old.", false⟩ reader
      (.error (.invalidOption "type" "messages" (.templateNotText "default")),
        ⟨.ofList [("a", "A"), ("default", "Old.")], true⟩,
        reader.asked ["messages", "allowEmpty"]) :=
  (configure_eq_iff _ _ _).1 rfl

end Settings

end Vetting
