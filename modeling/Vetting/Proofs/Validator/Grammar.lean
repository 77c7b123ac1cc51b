import Vetting.Proofs.Regex.Size
import Vetting.Proofs.Validator.Recipe

/-!
# The option grammar of the catalogue

Which options does a built-in validator accept?  A `Grammar` answers for one validator: the options
of its own with what each must be, and what is asked of them together.  Three of the catalogue ask
for something: the class check for its class, the length check for a bound, and the range check for
either a list or an interval.

* `Builtin.factory_grammar`: a built-in validator accepts options exactly when every name
  among them is known, everything given under a known name is well formed, and what is asked of them
  together holds.  An unknown name is reported exactly when nothing else is wrong, and then the
  least.
* `Builtin.url_refuses_texts`: for the schemes of a URL it is not enough to be texts, since they go
  into one pattern, and an engine takes no pattern whose automaton is too large.

What engine this is, the grammars leave open: they hold for each of them, with its own verdict about
the patterns that are given and about the pattern of the schemes.

The recipes have already told the validators without their readers.  What is left is, for each of
them, when its base is some validator, and this is a question about single options:
`Options.exists_read_iff` answers it for an option that may be missing.
-/

namespace Vetting

/-! ## What options are asked for -/

namespace Value

/-- A text that is not empty. -/
def IsClassName (v : Value) : Prop := ∃ name : String, v = .text name ∧ name ≠ ""

/-- A list of two values. -/
def IsPair (v : Value) : Prop := ∃ first last, v = .array [first, last]

/-- A text that spells out a pattern which the engine takes. -/
def IsPattern [Regex.Engine] (ignoreCase : Bool) (v : Value) : Prop :=
  ∃ source, v = .text source ∧ ∃ r, Regex.compile source ignoreCase = .ok r

/-- A list of texts whose pattern the engine takes. -/
def IsSchemes [Regex.Engine] (v : Value) : Prop :=
  ∃ schemes : List String, v = .array (schemes.map .text) ∧
    Regex.Engine.fits (Address.url schemes) = true

end Value

/-- Whether something is given under a name. -/
def Options.Gives (options : Options) (key : String) : Prop := (options.given? key).isSome = true

/-- The options of a validator: what each of its own must be, and what is asked of them together. -/
structure Grammar where
  own : List (String × (Value → Prop))
  requires : Options → Prop

namespace Grammar

/-- A validator that asks nothing of its options together. -/
def free (own : List (String × (Value → Prop))) : Grammar := ⟨own, fun _ => True⟩

/-- All options with what each must be. -/
def forms (g : Grammar) : List (String × (Value → Prop)) := g.own ++ Settings.commonForms

/-- The names of all options. -/
def keys (g : Grammar) : List String := g.forms.map Prod.fst

/-- Nothing is wrong with the options whose names are known. -/
structure Sound (g : Grammar) (options : Options) : Prop where
  wellFormed : options.WellFormed g.forms
  requires : g.requires options

/-- Options that are known and with which nothing is wrong. -/
structure Admits (g : Grammar) (options : Options) : Prop extends g.Sound options where
  known : ∀ key ∈ options.keys, key ∈ g.keys

end Grammar

namespace Builtin

/-- The options of the URL check, for what its schemes must be. -/
def urlGrammar [Regex.Engine] (schemes : Value → Prop) : Grammar :=
  .free [("schemes", schemes), ("strict", Value.IsBool), ("pattern", Value.IsPattern true)]

/-- The options of the built-in validators. -/
def grammars [Regex.Engine] : List (String × Grammar) := [
  ("required", .free []),
  ("type", .free [("type", Value.IsText)]),
  ("instanceOf", ⟨[("class", Value.IsClassName)], fun o => o.Gives "class"⟩),
  ("length", ⟨[("min", Value.IsCount), ("max", Value.IsCount)],
    fun o => o.Gives "min" ∨ o.Gives "max"⟩),
  ("number", .free [("min", Value.IsNumber), ("max", Value.IsNumber)]),
  ("boolean", .free [("trueValues", Value.IsList), ("falseValues", Value.IsList)]),
  ("regexp", .free [("pattern", Value.IsPattern false)]),
  ("range", ⟨[("in", Value.IsList), ("between", Value.IsPair)],
    fun o => (o.Gives "in" ∧ ¬ o.Gives "between") ∨ (¬ o.Gives "in" ∧ o.Gives "between")⟩),
  ("url", urlGrammar Value.IsSchemes),
  ("email", .free [("pattern", Value.IsPattern false)]),
  ("ip", .free [("v4", Value.IsBool), ("v6", Value.IsBool)]),
  ("hostname", .free []),
  ("date", .free []),
  ("time", .free []),
  ("datetime", .free [])]

end Builtin

variable {α : Type} {validator key : String} {options : Options}

/-! ## Options one at a time -/

namespace Options

/-- The option of a pattern, which is read as a text and then compiled. -/
theorem exists_read_pattern_iff [Regex.Engine] {ignoreCase : Bool} :
    (∃ source, options.read validator key OptionDecoder.text = .ok source ∧
        ∀ s, source = some s → ∃ r, Regex.compile s ignoreCase = .ok r) ↔
      ∀ v, options.given? key = some v → v.IsPattern ignoreCase := by
  refine exists_read_iff fun v => ?_
  simp only [OptionDecoder.text_eq_ok_iff]
  rfl

/-- The option of a class, which is read as a text and must not be empty. -/
theorem exists_read_className_iff :
    (∃ name, options.read validator key OptionDecoder.text = .ok name ∧
        ∀ s, name = some s → s ≠ "") ↔
      ∀ v, options.given? key = some v → v.IsClassName := by
  refine exists_read_iff fun v => ?_
  simp only [OptionDecoder.text_eq_ok_iff]
  rfl

/-- The option of an interval, which is read as a list and must have two items. -/
theorem exists_read_pair_iff :
    (∃ between, options.read validator key OptionDecoder.list = .ok between ∧
        ∀ ends, between = some ends → ∃ first last, ends = [first, last]) ↔
      ∀ v, options.given? key = some v → v.IsPair := by
  refine exists_read_iff fun v => ?_
  simp only [OptionDecoder.list_eq_ok_iff]
  constructor
  · rintro ⟨_, rfl, first, last, rfl⟩
    exact ⟨first, last, rfl⟩
  · rintro ⟨first, last, rfl⟩
    exact ⟨_, rfl, first, last, rfl⟩

/-- The option of the schemes, which are read as texts and go into a pattern. -/
theorem exists_read_schemes_iff [Regex.Engine] :
    (∃ schemes, options.read validator key OptionDecoder.texts = .ok schemes ∧
        ∀ given, schemes = some given → Regex.Engine.fits (Address.url given) = true) ↔
      ∀ v, options.given? key = some v → v.IsSchemes := by
  refine exists_read_iff fun v => ?_
  simp only [OptionDecoder.texts_eq_ok_iff]
  rfl

end Options

namespace Builtin

/-! ## When the base of a recipe is some validator -/

theorem exists_classNamed_iff {name : Option String} :
    (∃ v, classNamed name = .ok v) ↔ (∀ s, name = some s → s ≠ "") ∧ name.isSome = true := by
  cases name with
  | none => exact iff_of_false not_exists_error_eq_ok fun h => nomatch h.2
  | some s =>
    rw [classNamed]
    by_cases hs : s = ""
    · rw [if_pos (by rw [hs]; rfl)]
      exact iff_of_false not_exists_error_eq_ok fun h => h.1 s rfl hs
    · rw [if_neg fun h => hs (String.isEmpty_iff.1 h)]
      exact iff_of_true ⟨_, rfl⟩ ⟨fun t ht => Option.some.inj ht ▸ hs, rfl⟩

theorem exists_length_iff {min max : Option Nat} :
    (∃ v, length min max = .ok v) ↔ min.isSome = true ∨ max.isSome = true := by
  cases min with
  | some _ => exact iff_of_true ⟨_, rfl⟩ (Or.inl rfl)
  | none =>
    cases max with
    | some _ => exact iff_of_true ⟨_, rfl⟩ (Or.inr rfl)
    | none =>
      refine iff_of_false not_exists_error_eq_ok ?_
      rintro (h | h) <;> cases h

theorem exists_compileOption_iff [Regex.Engine] {option source : String} {ignoreCase : Bool} :
    (∃ r, compileOption validator option source ignoreCase = .ok r) ↔
      ∃ r, Regex.compile source ignoreCase = .ok r := by
  rw [compileOption]
  cases Regex.compile source ignoreCase with
  | error fault => exact iff_of_false not_exists_error_eq_ok not_exists_error_eq_ok
  | ok r => exact iff_of_true ⟨r, rfl⟩ ⟨r, rfl⟩

theorem exists_regexpOf_iff [Regex.Engine] {source : Option String} :
    (∃ v, regexpOf source = .ok v) ↔
      ∀ s, source = some s → ∃ r, Regex.compile s false = .ok r := by
  cases source with
  | none => exact iff_of_true ⟨_, rfl⟩ fun _ h => nomatch h
  | some s =>
    rw [regexpOf, regexpOfSource, exists_map_eq_ok_iff, exists_compileOption_iff]
    simp only [Option.some.injEq, forall_eq']

theorem exists_emailOf_iff [Regex.Engine] {source : Option String} :
    (∃ v, emailOf source = .ok v) ↔
      ∀ s, source = some s → ∃ r, Regex.compile s false = .ok r := by
  cases source with
  | none => exact iff_of_true ⟨_, rfl⟩ fun _ h => nomatch h
  | some s =>
    rw [emailOf, exists_map_eq_ok_iff, exists_compileOption_iff]
    simp only [Option.some.injEq, forall_eq']

theorem exists_urlPattern_iff [Regex.Engine] {default : Regex.Pattern} {source : Option String} :
    (∃ p, urlPattern default source = .ok p) ↔
      ∀ s, source = some s → ∃ r, Regex.compile s true = .ok r := by
  cases source with
  | none => exact iff_of_true ⟨_, rfl⟩ fun _ h => nomatch h
  | some s =>
    rw [urlPattern, exists_map_eq_ok_iff, exists_compileOption_iff]
    simp only [Option.some.injEq, forall_eq']

theorem exists_schemesPattern_iff [Regex.Engine] {schemes : List String} :
    (∃ p, schemesPattern schemes = .ok p) ↔ Regex.Engine.fits (Address.url schemes) = true := by
  rw [schemesPattern]
  by_cases h : Regex.Engine.fits (Address.url schemes) = true
  · rw [if_pos h]
    exact iff_of_true ⟨_, rfl⟩ h
  · rw [if_neg h]
    exact iff_of_false not_exists_error_eq_ok h

theorem exists_schemesPatternOrWeb_iff [Regex.Engine] {schemes : Option (List String)} :
    (∃ p, schemesPatternOrWeb schemes = .ok p) ↔
      ∀ given, schemes = some given → Regex.Engine.fits (Address.url given) = true := by
  cases schemes with
  | none => exact iff_of_true ⟨_, rfl⟩ fun _ h => nomatch h
  | some given =>
    rw [schemesPatternOrWeb, exists_schemesPattern_iff]
    simp only [Option.some.injEq, forall_eq']

/-- A range has bounds exactly when one of the two is given, and the interval has two ends. -/
theorem exists_rangeBounds_iff {values between : Option (List Value)} :
    (∃ b, rangeBounds values between = .ok b) ↔
      (∀ ends, between = some ends → ∃ first last, ends = [first, last]) ∧
        ((values.isSome = true ∧ ¬ between.isSome = true) ∨
          (¬ values.isSome = true ∧ between.isSome = true)) := by
  rcases values with _ | values
  · rcases between with _ | ends
    · refine iff_of_false not_exists_error_eq_ok ?_
      rintro ⟨-, ⟨h, -⟩ | ⟨-, h⟩⟩ <;> cases h
    · have hone : (¬ (none : Option (List Value)).isSome = true ∧ (some ends).isSome = true) :=
        ⟨Bool.false_ne_true, rfl⟩
      refine Iff.trans ?_ (and_iff_left (Or.inr hone)).symm
      constructor
      · rintro ⟨b, hb⟩ _ ⟨⟩
        unfold rangeBounds at hb
        split at hb
        · cases ‹none = some _›
        · exact ⟨_, _, Option.some.inj ‹some ends = some _›⟩
        · cases hb
        · cases hb
        · cases hb
      · intro h
        obtain ⟨first, last, rfl⟩ := h ends rfl
        exact ⟨.between first last, rfl⟩
  · rcases between with _ | ends
    · exact iff_of_true ⟨.oneOf values, rfl⟩
        ⟨fun _ h => (nomatch h), Or.inl ⟨rfl, Bool.false_ne_true⟩⟩
    · refine iff_of_false not_exists_error_eq_ok ?_
      rintro ⟨-, ⟨-, h⟩ | ⟨h, -⟩⟩
      · exact h rfl
      · exact h rfl

end Builtin

/-! ## Recipes and their grammars -/

/-- The recipe knows the options of the grammar, and makes something of just those that are well
formed and meet what is asked. -/
structure Recipe.Follows (r : Recipe) (g : Grammar) : Prop where
  keys : r.keys = g.own.map Prod.fst
  exists_base_iff : ∀ validator options, (∃ v, r.base validator options = .ok v) ↔
    options.WellFormed g.own ∧ g.requires options

namespace Recipe.Follows

variable {r : Recipe} {g : Grammar} {reading : Reading Validator}

theorem allKeys_eq (h : r.Follows g) : r.allKeys = g.keys := by
  rw [Recipe.allKeys, h.keys, Grammar.keys, Grammar.forms, List.map_append]
  rfl

theorem exists_meaning_iff (h : r.Follows g) :
    (∃ v, r.meaning validator options = .ok v) ↔ g.Sound options := by
  have hcommon : (∃ v, r.meaning validator options = .ok v) ↔
      (∃ v, r.base validator options = .ok v) ∧ options.WellFormed Settings.commonForms := by
    rw [Recipe.meaning, exists_bind_eq_ok_iff]
    simp only [Validator.exists_configuredFrom_eq_ok_iff, exists_and_right]
  rw [hcommon, h.exists_base_iff]
  constructor
  · rintro ⟨⟨hown, hrequires⟩, hcommon⟩
    exact ⟨Options.wellFormed_append.2 ⟨hown, hcommon⟩, hrequires⟩
  · rintro ⟨hforms, hrequires⟩
    obtain ⟨hown, hcommon⟩ := Options.wellFormed_append.1 hforms
    exact ⟨⟨hown, hrequires⟩, hcommon⟩

/-- **A reading accepts what its grammar admits.** -/
theorem exists_ofOptions_eq_ok_iff (h : r.Follows g) (hreading : r.Describes reading) :
    (∃ v, Reading.ofOptions validator options reading = .ok v) ↔ g.Admits options := by
  simp only [hreading.denotes.ofOptions_eq_ok_iff, exists_and_right, h.exists_meaning_iff,
    h.allKeys_eq]
  exact ⟨fun ⟨hsound, hknown⟩ => ⟨hsound, hknown⟩, fun h => ⟨h.toSound, h.known⟩⟩

/-- **A reading reports an unknown name when nothing else is wrong.** -/
theorem ofOptions_eq_unknown_iff (h : r.Follows g) (hreading : r.Describes reading)
    {name : String} :
    Reading.ofOptions validator options reading = .error (.unknownOption name key) ↔
      name = validator ∧ g.Sound options ∧ options.LeastUnknown g.keys key := by
  rw [hreading.denotes.ofOptions_eq_unknown_iff, h.exists_meaning_iff, h.allKeys_eq]

end Recipe.Follows

/-! ## The grammars of the catalogue -/

namespace Builtin

theorem follows_plain (v : Validator) : (Recipe.plain v).Follows (.free []) where
  keys := rfl
  exists_base_iff _ _ := iff_of_true ⟨v, rfl⟩ ⟨Options.wellFormed_nil, trivial⟩

theorem follows_type : typeRecipe.Follows (.free [("type", Value.IsText)]) where
  keys := rfl
  exists_base_iff validator options := by
    simp only [typeRecipe, Grammar.free, exists_bind_eq_ok_iff, exists_pure_eq_ok, and_true,
      Options.exists_read_eq_ok_iff, OptionDecoder.exists_text_eq_ok_iff, Options.wellFormed_cons,
      Options.wellFormed_nil]

theorem follows_number :
    numberRecipe.Follows (.free [("min", Value.IsNumber), ("max", Value.IsNumber)]) where
  keys := rfl
  exists_base_iff validator options := by
    simp only [numberRecipe, Grammar.free, exists_bind_eq_ok_iff, exists_pure_eq_ok, and_true,
      exists_and_right, Options.exists_read_eq_ok_iff, OptionDecoder.exists_number_eq_ok_iff,
      Options.wellFormed_cons, Options.wellFormed_nil]

theorem follows_boolean :
    booleanRecipe.Follows
      (.free [("trueValues", Value.IsList), ("falseValues", Value.IsList)]) where
  keys := rfl
  exists_base_iff validator options := by
    simp only [booleanRecipe, Grammar.free, exists_bind_eq_ok_iff, exists_pure_eq_ok, and_true,
      exists_and_right, Options.exists_read_eq_ok_iff, OptionDecoder.exists_list_eq_ok_iff,
      Options.wellFormed_cons, Options.wellFormed_nil]

theorem follows_ip : ipRecipe.Follows (.free [("v4", Value.IsBool), ("v6", Value.IsBool)]) where
  keys := rfl
  exists_base_iff validator options := by
    simp only [ipRecipe, Grammar.free, exists_bind_eq_ok_iff, exists_pure_eq_ok, and_true,
      exists_and_right, Options.exists_read_eq_ok_iff, OptionDecoder.exists_bool_eq_ok_iff,
      Options.wellFormed_cons, Options.wellFormed_nil]

theorem follows_regexp [Regex.Engine] :
    regexpRecipe.Follows (.free [("pattern", Value.IsPattern false)]) where
  keys := rfl
  exists_base_iff validator options := by
    simp only [regexpRecipe, Grammar.free, exists_bind_eq_ok_iff, exists_regexpOf_iff, and_true,
      Options.exists_read_pattern_iff, Options.wellFormed_cons, Options.wellFormed_nil]

theorem follows_email [Regex.Engine] :
    emailRecipe.Follows (.free [("pattern", Value.IsPattern false)]) where
  keys := rfl
  exists_base_iff validator options := by
    simp only [emailRecipe, Grammar.free, exists_bind_eq_ok_iff, exists_emailOf_iff, and_true,
      Options.exists_read_pattern_iff, Options.wellFormed_cons, Options.wellFormed_nil]

theorem follows_url [Regex.Engine] : urlRecipe.Follows (urlGrammar Value.IsSchemes) where
  keys := rfl
  exists_base_iff validator options := by
    simp only [urlRecipe, urlGrammar, Grammar.free, exists_bind_eq_ok_iff, exists_pure_eq_ok,
      exists_urlPattern_iff, exists_schemesPatternOrWeb_iff, and_true, exists_and_right,
      Options.exists_read_pattern_iff, Options.exists_read_eq_ok_iff,
      OptionDecoder.exists_bool_eq_ok_iff, Options.wellFormed_cons, Options.wellFormed_nil]
    rw [← Options.exists_read_schemes_iff]
    constructor
    · rintro ⟨schemes, hread, hfits, hrest⟩
      exact ⟨⟨schemes, hread, hfits⟩, hrest⟩
    · rintro ⟨⟨schemes, hread, hfits⟩, hrest⟩
      exact ⟨schemes, hread, hfits, hrest⟩

/-- The class must be given, since the check asks for something only if it is. -/
theorem follows_instanceOf :
    instanceOfRecipe.Follows ⟨[("class", Value.IsClassName)], fun o => o.Gives "class"⟩ where
  keys := rfl
  exists_base_iff validator options := by
    simp only [instanceOfRecipe, exists_bind_eq_ok_iff, exists_classNamed_iff,
      Options.wellFormed_cons, Options.wellFormed_nil, and_true]
    rw [← Options.exists_read_className_iff]
    constructor
    · rintro ⟨name, hname, hne, hgiven⟩
      rw [Options.isSome_of_read_eq_ok hname] at hgiven
      exact ⟨⟨name, hname, hne⟩, hgiven⟩
    · rintro ⟨⟨name, hname, hne⟩, hgiven⟩
      refine ⟨name, hname, hne, ?_⟩
      rw [Options.isSome_of_read_eq_ok hname]
      exact hgiven

theorem follows_length :
    lengthRecipe.Follows ⟨[("min", Value.IsCount), ("max", Value.IsCount)],
      fun o => o.Gives "min" ∨ o.Gives "max"⟩ where
  keys := rfl
  exists_base_iff validator options := by
    have hcount : ∀ key, (∃ n, options.read validator key OptionDecoder.count = .ok n) ↔
        ∀ v, options.given? key = some v → v.IsCount := by
      intro key
      simp only [Options.exists_read_eq_ok_iff, OptionDecoder.exists_count_eq_ok_iff]
    simp only [lengthRecipe, exists_bind_eq_ok_iff, exists_length_iff, Options.wellFormed_cons,
      Options.wellFormed_nil, and_true, ← hcount]
    constructor
    · rintro ⟨min, hmin, max, hmax, hgiven⟩
      rw [Options.isSome_of_read_eq_ok hmin, Options.isSome_of_read_eq_ok hmax] at hgiven
      exact ⟨⟨⟨min, hmin⟩, ⟨max, hmax⟩⟩, hgiven⟩
    · rintro ⟨⟨⟨min, hmin⟩, ⟨max, hmax⟩⟩, hgiven⟩
      refine ⟨min, hmin, max, hmax, ?_⟩
      rw [Options.isSome_of_read_eq_ok hmin, Options.isSome_of_read_eq_ok hmax]
      exact hgiven

theorem follows_range :
    rangeRecipe.Follows ⟨[("in", Value.IsList), ("between", Value.IsPair)],
      fun o => (o.Gives "in" ∧ ¬ o.Gives "between") ∨ (¬ o.Gives "in" ∧ o.Gives "between")⟩ where
  keys := rfl
  exists_base_iff validator options := by
    have hlist : (∃ values, options.read validator "in" OptionDecoder.list = .ok values) ↔
        ∀ v, options.given? "in" = some v → v.IsList := by
      simp only [Options.exists_read_eq_ok_iff, OptionDecoder.exists_list_eq_ok_iff]
    simp only [rangeRecipe, exists_bind_eq_ok_iff, exists_pure_eq_ok, exists_rangeBounds_iff,
      Options.wellFormed_cons, Options.wellFormed_nil, and_true]
    rw [← hlist, ← Options.exists_read_pair_iff]
    constructor
    · rintro ⟨values, hvalues, between, hbetween, hpair, hone⟩
      rw [Options.isSome_of_read_eq_ok hvalues, Options.isSome_of_read_eq_ok hbetween] at hone
      exact ⟨⟨⟨values, hvalues⟩, ⟨between, hbetween, hpair⟩⟩, hone⟩
    · rintro ⟨⟨⟨values, hvalues⟩, ⟨between, hbetween, hpair⟩⟩, hone⟩
      refine ⟨values, hvalues, between, hbetween, hpair, ?_⟩
      rw [Options.isSome_of_read_eq_ok hvalues, Options.isSome_of_read_eq_ok hbetween]
      exact hone

/-- **Each recipe follows the grammar of its name.** -/
theorem forall₂_recipes_grammars [Regex.Engine] :
    List.Forall₂ (fun recipe grammar => recipe.1 = grammar.1 ∧ recipe.2.Follows grammar.2)
      recipes grammars :=
  .cons ⟨rfl, follows_plain required⟩ <|
  .cons ⟨rfl, follows_type⟩ <|
  .cons ⟨rfl, follows_instanceOf⟩ <|
  .cons ⟨rfl, follows_length⟩ <|
  .cons ⟨rfl, follows_number⟩ <|
  .cons ⟨rfl, follows_boolean⟩ <|
  .cons ⟨rfl, follows_regexp⟩ <|
  .cons ⟨rfl, follows_range⟩ <|
  .cons ⟨rfl, follows_url⟩ <|
  .cons ⟨rfl, follows_email⟩ <|
  .cons ⟨rfl, follows_ip⟩ <|
  .cons ⟨rfl, follows_plain hostname⟩ <|
  .cons ⟨rfl, follows_plain date⟩ <|
  .cons ⟨rfl, follows_plain time⟩ <|
  .cons ⟨rfl, follows_plain datetime⟩ .nil

/-- **The option grammar of the catalogue.**  Whatever the engine, a built-in validator accepts
options exactly when its grammar admits them, and it reports an unknown name exactly when nothing is
wrong with the known ones, and then the least. -/
theorem factory_grammar [Regex.Engine] {name : String} {factory : Factory}
    (h : factory? name = some factory) :
    ∃ g, grammars.lookup name = some g ∧ ∀ options,
      ((∃ v, factory options = .ok v) ↔ g.Admits options) ∧
      ∀ validator key, factory options = .error (.unknownOption validator key) ↔
        validator = name ∧ g.Sound options ∧ options.LeastUnknown g.keys key := by
  obtain ⟨recipe, hrecipe, reading, hreading, rfl⟩ := exists_recipe_of_factory? h
  obtain ⟨g, hg, hfollows⟩ := exists_lookup_of_forall₂
    (fun _ recipe grammar => Recipe.Follows recipe grammar) forall₂_recipes_grammars hrecipe
  exact ⟨g, hg, fun options => ⟨hfollows.exists_ofOptions_eq_ok_iff hreading,
    fun validator key => hfollows.ofOptions_eq_unknown_iff hreading⟩⟩

/-- Schemes whose pattern the engine does not take are refused, whatever else is given. -/
theorem factory_of_fits_eq_false [Regex.Engine] {factory : Factory}
    (h : factory? "url" = some factory) {schemes : List String}
    (hgiven : options.given? "schemes" = some (.array (schemes.map .text)))
    (hfits : Regex.Engine.fits (Address.url schemes) = false) :
    factory options = .error (.invalidOption "url" "schemes" (.badPattern .tooLarge)) := by
  obtain rfl := Option.some.inj h
  refine describes_url.denotes.ofOptions_eq_error_iff.2 (Or.inl ?_)
  have hread : options.read "url" "schemes" OptionDecoder.texts = .ok (some schemes) := by
    rw [Options.read_of_given?_eq_some hgiven, OptionDecoder.texts_eq_ok_iff.2 rfl]
  have hpattern : schemesPatternOrWeb (some schemes) =
      .error (.invalidOption "url" "schemes" (.badPattern .tooLarge)) := by
    rw [schemesPatternOrWeb, schemesPattern]
    exact if_neg (Bool.eq_false_iff.1 hfits)
  simp [Recipe.meaning, urlRecipe, hread, hpattern]

section

attribute [local instance] Regex.Engine.standard

/-- **A null counts as absent, but its name must be known all the same.**  The length check is given
a bound, and of the two names it does not know it reports the lesser. -/
theorem factory_grammar_length :
    ∃ factory, factory? "length" = some factory ∧
      factory (.ofList [("zz", .null), ("min", .number .zero), ("aa", .null)]) =
        .error (.unknownOption "length" "aa") := by
  obtain ⟨g, hg, hoptions⟩ := @factory_grammar _ "length" _ rfl
  refine ⟨_, rfl, ((hoptions _).2 "length" "aa").2 ⟨rfl, ⟨?_, ?_⟩, ?_⟩⟩
  · obtain rfl := Option.some.inj hg
    have hmin : ∀ v, Options.given? (.ofList [("zz", .null), ("min", .number .zero), ("aa", .null)])
        "min" = some v → v.IsCount := by
      rintro _ ⟨⟩
      exact ⟨.zero, rfl, rfl, 0, by rw [Nat.zero_mul]; rfl⟩
    exact Options.wellFormed_cons.2 ⟨hmin, Options.wellFormed_cons.2 ⟨nofun,
      Options.wellFormed_cons.2 ⟨nofun, Options.wellFormed_cons.2 ⟨nofun,
        Options.wellFormed_cons.2 ⟨nofun, Options.wellFormed_nil⟩⟩⟩⟩⟩
  · obtain rfl := Option.some.inj hg
    exact Or.inl rfl
  · obtain rfl := Option.some.inj hg
    exact ⟨by decide, by decide, by decide⟩

/-- Seven hundred schemes of five hundred letters each, and a short one. -/
def longSchemes : List String :=
  List.replicate 700 (String.ofList (List.replicate 500 'k')) ++ ["b"]

/-- The automaton of the long schemes is too large. -/
theorem fits_url_longSchemes : Regex.Engine.fits (Address.url longSchemes) = false := by
  refine Address.standard_fits_url_eq_false ?_
  rw [longSchemes, List.map_append, List.map_replicate, String.length_ofList,
    List.length_replicate, List.sum_append, List.sum_replicate_nat]
  decide

/-- **Texts are not enough for the schemes of a URL.**  These are texts and nothing else is given,
so a grammar that asks for texts admits them; yet the standard engine refuses their pattern. -/
theorem url_refuses_texts :
    (urlGrammar Value.IsTexts).Admits (.ofList [("schemes", .array (longSchemes.map .text))]) ∧
      ∃ factory, factory? "url" = some factory ∧
        factory (.ofList [("schemes", .array (longSchemes.map .text))]) =
          .error (.invalidOption "url" "schemes" (.badPattern .tooLarge)) := by
  have hgiven : Options.given? (.ofList [("schemes", .array (longSchemes.map .text))])
      "schemes" = some (.array (longSchemes.map .text)) := rfl
  obtain ⟨factory, hfactory⟩ : ∃ factory, factory? "url" = some factory := ⟨_, rfl⟩
  refine ⟨⟨⟨?_, trivial⟩, ?_⟩, factory, hfactory,
    factory_of_fits_eq_false hfactory hgiven fits_url_longSchemes⟩
  · have hschemes : ∀ v, Options.given? (.ofList [("schemes", .array (longSchemes.map .text))])
        "schemes" = some v → v.IsTexts :=
      fun v hv => ⟨longSchemes, (Option.some.inj (hgiven.symm.trans hv)).symm⟩
    exact Options.wellFormed_cons.2 ⟨hschemes, Options.wellFormed_cons.2 ⟨nofun,
      Options.wellFormed_cons.2 ⟨nofun, Options.wellFormed_cons.2 ⟨nofun,
        Options.wellFormed_cons.2 ⟨nofun, Options.wellFormed_cons.2 ⟨nofun,
          Options.wellFormed_nil⟩⟩⟩⟩⟩⟩
  · intro key hkey
    obtain rfl := List.mem_singleton.1 hkey
    decide

end

end Builtin

end Vetting
