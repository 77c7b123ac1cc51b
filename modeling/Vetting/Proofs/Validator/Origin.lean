import Vetting.Proofs.Options.Effect
import Vetting.Proofs.Validator.Recipe
import Vetting.Proofs.Validator.Verdict

/-!
# Where validators come from

A validator is made of its parameters first, and settings come afterwards.  As it is made, it lets
no empty value pass unchecked and has a template for each of its slots: it is
`Validator.Fresh`.  Everything the catalogue makes of options starts from such a validator.

* `Builtin.Typed` lists what the built-in validators are as they are made, by name.  A builder that
  sets a parameter later makes no others, since every value of the parameters is there from the
  start.
* `Validator.Configured` says what options add to a validator: the flag and the templates they give,
  and nothing else.
* `Builtin.exists_typed_of_factory?`: what a built-in factory makes is a typed validator with the
  common options added.  `Factory.Standard.exists_recipe_proper` says as much of every standard
  factory, with a fresh validator in the place of the typed one.
-/

namespace Vetting

variable {validator name : String} {options : Options}

namespace Validator

/-- A validator with settings as they are when it is made. -/
structure Fresh (v : Validator) : Prop extends v.Worded where
  allowEmpty : v.settings.allowEmpty = false

/-- One template is enough for a check that fails with the default slot only. -/
theorem fresh_withMessage {message : String} {check : Check} (hcheck : ¬ check.IsInline)
    (hslots : check.slots = [Messages.defaultSlot]) : (withMessage name message check).Fresh where
  notInline := hcheck
  templates slot hslot := by
    have hmem : slot ∈ check.slots := hslot
    rw [hslots] at hmem
    obtain rfl := List.mem_singleton.1 hmem
    exact ⟨message, Dict.find?_insert_self _ _ _⟩
  allowEmpty := rfl

theorem fresh_withMessages {messages : List (String × String)} {check : Check}
    (hcheck : ¬ check.IsInline)
    (hslots : ∀ slot ∈ check.slots,
      ((Messages.ofList messages).templates.find? slot).isSome = true) :
    (withMessages name messages check).Fresh where
  notInline := hcheck
  templates slot hslot := Option.isSome_iff_exists.1 (hslots slot hslot)
  allowEmpty := rfl

theorem fresh_custom (message : String) (test : Option (Value → Bool)) :
    (custom name message test).Fresh :=
  fresh_withMessage (fun ⟨_, h⟩ => nomatch h) rfl

/-! ## What the common options add -/

/-- A validator is another one with the flag and the templates that options give. -/
structure Configured (original : Validator) (options : Options) (v : Validator) : Prop where
  check : v.check = original.check
  allowEmpty : v.settings.allowEmpty = options.allowEmpty?.getD original.settings.allowEmpty
  templates : ∀ slot, v.settings.messages.templates.find? slot =
    (options.template? slot).or (original.settings.messages.templates.find? slot)

theorem configured_of_configuredFrom {original v : Validator}
    (h : original.configuredFrom validator options = .ok v) : original.Configured options v := by
  obtain ⟨settings, hsettings, hv⟩ := bind_eq_ok_iff.1 h
  obtain rfl := Except.ok.inj hv
  exact ⟨rfl, Settings.allowEmpty_of_configuredFrom hsettings,
    Settings.find?_messages_of_configuredFrom hsettings⟩

variable {original v : Validator}

/-- Options take no template away. -/
theorem Configured.worded (h : original.Configured options v) (horiginal : original.Worded) :
    v.Worded where
  notInline := h.check ▸ horiginal.notInline
  templates slot hslot := by
    rw [h.check] at hslot
    obtain ⟨template, htemplate⟩ := horiginal.templates slot hslot
    rw [h.templates, htemplate]
    cases options.template? slot with
    | none => exact ⟨template, rfl⟩
    | some given => exact ⟨given, rfl⟩

end Validator

namespace Builtin

/-! ## Validators made of parameters -/

/-- The built-in validators that can be made of parameters, with their names. -/
inductive Typed : String → Validator → Prop
  | required : Typed "required" required
  | type (expected : String) : Typed "type" (type expected)
  | instanceOf (cls : ClassRef) : Typed "instanceOf" (instanceOf cls)
  | length {min max : Option Nat} {v : Validator} (h : length min max = .ok v) : Typed "length" v
  | number (min max : Option Double) : Typed "number" (number min max)
  | boolean (trueValues falseValues : List Value) :
      Typed "boolean" (boolean trueValues falseValues)
  | regexp (pattern : Option Regex) : Typed "regexp" (regexp pattern)
  | range (bounds : RangeBounds) : Typed "range" (range bounds)
  | url (schemes : List String) (strict : Bool) (pattern : Regex.Pattern) :
      Typed "url" (urlWith schemes strict pattern)
  | email (pattern : Regex.Pattern) : Typed "email" (emailWith pattern)
  | ip (v4 v6 : Bool) : Typed "ip" (ip v4 v6)
  | hostname : Typed "hostname" hostname
  | date : Typed "date" date
  | time : Typed "time" time
  | datetime : Typed "datetime" datetime

theorem eq_bounded_of_length {min max : Option Nat} {v : Validator} (h : length min max = .ok v) :
    v = bounded min max ∧ (min.isSome = true ∨ max.isSome = true) := by
  cases min with
  | some n => exact ⟨(Except.ok.inj h).symm, Or.inl rfl⟩
  | none =>
    cases max with
    | some n => exact ⟨(Except.ok.inj h).symm, Or.inr rfl⟩
    | none => cases h

theorem Typed.fresh {v : Validator} (h : Typed name v) : v.Fresh := by
  cases h with
  | length h =>
    rw [(eq_bounded_of_length h).1]
    have hslots : ∀ slot ∈ lengthSlots,
      ((bounded none none).settings.messages.templates.find? slot).isSome = true := by decide
    exact Validator.fresh_withMessages (fun ⟨_, h⟩ => nomatch h) hslots
  | number min max =>
    have hslots : ∀ slot ∈ numberSlots,
      ((Builtin.number none none).settings.messages.templates.find? slot).isSome = true := by decide
    exact Validator.fresh_withMessages (fun ⟨_, h⟩ => nomatch h) hslots
  | regexp pattern =>
    have hslots : ∀ slot ∈ [Messages.defaultSlot, "badType"],
      ((Builtin.regexp none).settings.messages.templates.find? slot).isSome = true := by decide
    exact Validator.fresh_withMessages (fun ⟨_, h⟩ => nomatch h) hslots
  | range bounds =>
    have hslots : ∀ slot ∈ ["in", "between"],
        ((Builtin.range (.oneOf [])).settings.messages.templates.find? slot).isSome = true := by
      decide
    refine Validator.fresh_withMessages (fun ⟨_, h⟩ => nomatch h) fun slot hslot => hslots slot ?_
    obtain rfl := List.mem_singleton.1 hslot
    cases bounds with
    | oneOf values => exact List.mem_cons_self
    | between start stop => exact List.mem_cons_of_mem _ (List.mem_singleton_self _)
  | _ => exact Validator.fresh_withMessage (fun ⟨_, h⟩ => nomatch h) rfl

/-! ## The recipes of the catalogue make them -/

/-- Everything that a recipe makes is typed under the name. -/
def Makes (name : String) (recipe : Recipe) : Prop :=
  ∀ validator options v, recipe.base validator options = .ok v → Typed name v

theorem makes_plain {v : Validator} (h : Typed name v) : Makes name (.plain v) := by
  intro validator options w hw
  rwa [← Except.ok.inj hw]

theorem makes_type : Makes "type" typeRecipe := by
  intro validator options v hv
  obtain ⟨expected, -, hv⟩ := bind_eq_ok_iff.1 hv
  rw [← Except.ok.inj hv]
  exact .type _

theorem makes_instanceOf : Makes "instanceOf" instanceOfRecipe := by
  intro validator options v hv
  obtain ⟨cls, -, hv⟩ := bind_eq_ok_iff.1 hv
  cases cls with
  | none => cases hv
  | some cls =>
    rw [classNamed] at hv
    split at hv
    · cases hv
    · rw [← Except.ok.inj hv]
      exact .instanceOf _

theorem makes_length : Makes "length" lengthRecipe := by
  intro validator options v hv
  obtain ⟨min, -, hv⟩ := bind_eq_ok_iff.1 hv
  obtain ⟨max, -, hv⟩ := bind_eq_ok_iff.1 hv
  exact .length hv

theorem makes_number : Makes "number" numberRecipe := by
  intro validator options v hv
  obtain ⟨min, -, hv⟩ := bind_eq_ok_iff.1 hv
  obtain ⟨max, -, hv⟩ := bind_eq_ok_iff.1 hv
  rw [← Except.ok.inj hv]
  exact .number _ _

theorem makes_boolean : Makes "boolean" booleanRecipe := by
  intro validator options v hv
  obtain ⟨trueValues, -, hv⟩ := bind_eq_ok_iff.1 hv
  obtain ⟨falseValues, -, hv⟩ := bind_eq_ok_iff.1 hv
  rw [← Except.ok.inj hv]
  exact .boolean _ _

theorem makes_regexp [Regex.Engine] : Makes "regexp" regexpRecipe := by
  intro validator options v hv
  obtain ⟨source, -, hv⟩ := bind_eq_ok_iff.1 hv
  cases source with
  | none =>
    rw [← Except.ok.inj hv]
    exact .regexp none
  | some source =>
    obtain ⟨r, -, rfl⟩ := map_eq_ok_iff.1 hv
    exact .regexp (some r)

theorem makes_range : Makes "range" rangeRecipe := by
  intro validator options v hv
  obtain ⟨values, -, hv⟩ := bind_eq_ok_iff.1 hv
  obtain ⟨between, -, hv⟩ := bind_eq_ok_iff.1 hv
  obtain ⟨bounds, -, hv⟩ := bind_eq_ok_iff.1 hv
  rw [← Except.ok.inj hv]
  exact .range bounds

theorem makes_url [Regex.Engine] : Makes "url" urlRecipe := by
  intro validator options v hv
  obtain ⟨schemes, -, hv⟩ := bind_eq_ok_iff.1 hv
  obtain ⟨default, -, hv⟩ := bind_eq_ok_iff.1 hv
  obtain ⟨strict, -, hv⟩ := bind_eq_ok_iff.1 hv
  obtain ⟨source, -, hv⟩ := bind_eq_ok_iff.1 hv
  obtain ⟨pattern, -, hv⟩ := bind_eq_ok_iff.1 hv
  rw [← Except.ok.inj hv]
  exact .url _ _ _

theorem makes_email [Regex.Engine] : Makes "email" emailRecipe := by
  intro validator options v hv
  obtain ⟨source, -, hv⟩ := bind_eq_ok_iff.1 hv
  cases source with
  | none =>
    rw [← Except.ok.inj hv]
    exact .email _
  | some source =>
    obtain ⟨r, -, rfl⟩ := map_eq_ok_iff.1 hv
    exact .email _

theorem makes_ip : Makes "ip" ipRecipe := by
  intro validator options v hv
  obtain ⟨v4, -, hv⟩ := bind_eq_ok_iff.1 hv
  obtain ⟨v6, -, hv⟩ := bind_eq_ok_iff.1 hv
  rw [← Except.ok.inj hv]
  exact .ip _ _

/-- **Whatever a recipe of the catalogue makes is typed under its name.** -/
theorem forall_recipes_makes [Regex.Engine] : ∀ entry ∈ recipes, Makes entry.1 entry.2 :=
  List.forall_mem_cons.2 ⟨makes_plain .required,
  List.forall_mem_cons.2 ⟨makes_type,
  List.forall_mem_cons.2 ⟨makes_instanceOf,
  List.forall_mem_cons.2 ⟨makes_length,
  List.forall_mem_cons.2 ⟨makes_number,
  List.forall_mem_cons.2 ⟨makes_boolean,
  List.forall_mem_cons.2 ⟨makes_regexp,
  List.forall_mem_cons.2 ⟨makes_range,
  List.forall_mem_cons.2 ⟨makes_url,
  List.forall_mem_cons.2 ⟨makes_email,
  List.forall_mem_cons.2 ⟨makes_ip,
  List.forall_mem_cons.2 ⟨makes_plain .hostname,
  List.forall_mem_cons.2 ⟨makes_plain .date,
  List.forall_mem_cons.2 ⟨makes_plain .time,
  List.forall_mem_cons.2 ⟨makes_plain .datetime, List.forall_mem_nil _⟩⟩⟩⟩⟩⟩⟩⟩⟩⟩⟩⟩⟩⟩⟩

theorem makes_of_lookup [Regex.Engine] {recipe : Recipe} (h : recipes.lookup name = some recipe) :
    Makes name recipe :=
  forall_recipes_makes (name, recipe) ((lookup_eq_some_iff_mem nodup_names_recipes).1 h)

/-- No built-in validator reads one of the common options as its own. -/
theorem notMem_keys_of_lookup [Regex.Engine] {recipe : Recipe}
    (h : recipes.lookup name = some recipe) :
    ∀ key ∈ Settings.commonKeys, key ∉ recipe.keys := by
  have hall : ∀ entry ∈ ownKeys, ∀ key ∈ Settings.commonKeys, key ∉ entry.2 := by decide
  exact hall _ (mem_ownKeys_of_lookup h)

end Builtin

/-! ## What factories make -/

/-- A recipe that leaves the common options alone and makes fresh validators. -/
structure Recipe.Proper (r : Recipe) : Prop where
  disjoint : ∀ key ∈ Settings.commonKeys, key ∉ r.keys
  fresh : ∀ validator options v, r.base validator options = .ok v → v.Fresh

/-- What a recipe makes is a matter of its own options. -/
theorem Recipe.Describes.base_congr {r : Recipe} {reading : Reading Validator}
    (h : r.Describes reading) {p : Options}
    (hoptions : ∀ key ∈ r.keys, options.given? key = p.given? key) :
    r.base validator options = r.base validator p := by
  obtain ⟨own, hown, -⟩ := h
  exact hown.congr_options validator options p hoptions

/-- What a reading accepts is made by the recipe and has the common options added. -/
theorem Recipe.Describes.exists_configured {r : Recipe} {reading : Reading Validator}
    (h : r.Describes reading) {v : Validator}
    (hv : Reading.ofOptions validator options reading = .ok v) :
    ∃ original, r.base validator options = .ok original ∧ original.Configured options v := by
  obtain ⟨hmeaning, -⟩ := h.denotes.ofOptions_eq_ok_iff.1 hv
  obtain ⟨original, hbase, hconfigured⟩ := bind_eq_ok_iff.1 hmeaning
  exact ⟨original, hbase, Validator.configured_of_configuredFrom hconfigured⟩

/-- What a built-in factory makes comes of the recipe of the name. -/
theorem Builtin.exists_base_of_factory? [Regex.Engine] {recipe : Recipe} {factory : Factory}
    {v : Validator} (hrecipe : recipes.lookup name = some recipe) (h : factory? name = some factory)
    (hv : factory options = .ok v) :
    ∃ original, recipe.base name options = .ok original ∧ original.Configured options v := by
  obtain ⟨other, hother, reading, hreading, rfl⟩ := exists_recipe_of_factory? h
  obtain rfl : other = recipe := Option.some.inj (hother.symm.trans hrecipe)
  exact hreading.exists_configured hv

/-- **What a built-in factory makes is a typed validator with the common options added.** -/
theorem Builtin.exists_typed_of_factory? [Regex.Engine] {factory : Factory} {v : Validator}
    (h : factory? name = some factory) (hv : factory options = .ok v) :
    ∃ original, Typed name original ∧ original.Configured options v := by
  obtain ⟨recipe, hrecipe, reading, hreading, rfl⟩ := exists_recipe_of_factory? h
  obtain ⟨original, hbase, hconfigured⟩ := hreading.exists_configured hv
  exact ⟨original, makes_of_lookup hrecipe _ _ _ hbase, hconfigured⟩

/-- **A standard factory has a proper recipe.** -/
theorem Factory.Standard.exists_recipe_proper [Regex.Engine] {factory : Factory}
    (h : Factory.Standard name factory) :
    ∃ recipe : Recipe, recipe.Proper ∧ ∃ reading, recipe.Describes reading ∧
      factory = fun options => Reading.ofOptions name options reading := by
  cases h with
  | builtin h =>
    obtain ⟨recipe, hrecipe, hreading⟩ := Builtin.exists_recipe_of_factory? h
    refine ⟨recipe, ⟨Builtin.notMem_keys_of_lookup hrecipe, ?_⟩, hreading⟩
    exact fun _ _ _ hbase => (Builtin.makes_of_lookup hrecipe _ _ _ hbase).fresh
  | custom message test =>
    refine ⟨.plain (.custom name message (some test)), ⟨fun _ _ => List.not_mem_nil, ?_⟩, _,
      Recipe.describes_plain _, rfl⟩
    rintro validator options _ ⟨⟩
    exact Validator.fresh_custom message _

/-- What a standard factory makes is a fresh validator with the common options added. -/
theorem Factory.Standard.exists_configured [Regex.Engine] {factory : Factory} {v : Validator}
    (h : Factory.Standard name factory) (hv : factory options = .ok v) :
    ∃ original : Validator, original.Fresh ∧ original.Configured options v := by
  obtain ⟨recipe, hproper, reading, hreading, rfl⟩ := h.exists_recipe_proper
  obtain ⟨original, hbase, hconfigured⟩ := hreading.exists_configured hv
  exact ⟨original, hproper.fresh _ _ _ hbase, hconfigured⟩

end Vetting
