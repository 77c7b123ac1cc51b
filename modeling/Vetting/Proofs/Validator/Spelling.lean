import Vetting.Regex.Size
import Vetting.Validator.Builder
import Vetting.Proofs.Number.Exact
import Vetting.Proofs.Validator.Grammar
import Vetting.Proofs.Validator.Origin

/-!
# The same validator by parameters and from options

A built-in validator can be made by a function of its parameters or from options that spell the
parameters out.  The two ways are written apart from each other: one takes counts, patterns and
lists as they are, the other decodes values, and each of them fills in the parameters that are not
given.  They never differ.

* `Builtin.Spelling` pairs what is made of parameters with the options that say the same.  What it
  asks of the parameters is what options can say: a class has a name, a count is within the whole
  numbers that a double keeps apart, a bound is a number, and a pattern is the one that its source
  compiles to.
* `Options.Spells` says which options count as saying it.  A parameter that is left open may be
  absent or null, and so may the common options.

Options decode to the parameters one name at a time (`Options.Spells.read_eq`); the recipe of the
validator does the rest, and with no common option given nothing is changed afterwards
(`Recipe.Describes.ofOptions_of_spells`).  The one decoder that needs an argument is that of the
counts, which are written as doubles: see `Double.toNat?_ofNat`.
-/

namespace Vetting

variable {validator name : String} {options : Options}

/-! ## Options that spell parameters out -/

namespace Options

/-- Options that give what is wanted, where `none` leaves a name open, and nothing besides. -/
structure Spells (options : Options) (wanted : List (String × Option Value)) : Prop where
  given : ∀ key v, (key, v) ∈ wanted → options.given? key = v
  common : ∀ key ∈ Settings.commonKeys, options.given? key = none
  known : ∀ key ∈ options.keys, key ∈ wanted.map Prod.fst ++ Settings.commonKeys

/-- Lists of names and values that options can spell out: no name comes twice or is a common one,
and no value counts as absent. -/
structure Spellable (wanted : List (String × Option Value)) : Prop where
  nodup : (wanted.map Prod.fst).Nodup
  notCommon : ∀ key ∈ Settings.commonKeys, key ∉ wanted.map Prod.fst
  notNullish : ∀ key v, (key, some v) ∈ wanted → v.isNullish = false

variable {wanted : List (String × Option Value)}

/-- The options with an entry for each name, which is null where the name is left open. -/
def ofWanted (wanted : List (String × Option Value)) : Options :=
  .ofList (wanted.map fun entry => (entry.1, entry.2.getD .null))

theorem find?_ofWanted (h : Spellable wanted) {key : String} {v : Value} :
    (ofWanted wanted).find? key = some v ↔
      ∃ given, (key, given) ∈ wanted ∧ given.getD .null = v := by
  have hkeys :
      ((wanted.map fun entry => (entry.1, entry.2.getD Value.null)).map Prod.fst).Nodup := by
    rw [List.map_map]
    exact h.nodup
  rw [ofWanted, Dict.find?_ofList_eq_some_iff hkeys, List.mem_map]
  constructor
  · rintro ⟨⟨other, given⟩, hmem, ⟨⟩⟩
    exact ⟨given, hmem, rfl⟩
  · rintro ⟨given, hmem, rfl⟩
    exact ⟨(key, given), hmem, rfl⟩

/-- What is spellable is spelled out by some options. -/
theorem spells_ofWanted (h : Spellable wanted) : (ofWanted wanted).Spells wanted where
  given key v hmem := by
    rw [given?, (find?_ofWanted h).2 ⟨v, hmem, rfl⟩]
    cases v with
    | none => rfl
    | some v =>
      rw [Option.getD_some, Option.filter_some, h.notNullish key v hmem]
      rfl
  common key hkey := by
    have hnone : (ofWanted wanted).find? key = none := by
      refine Option.eq_none_iff_forall_ne_some.2 fun v hv => ?_
      obtain ⟨given, hmem, -⟩ := (find?_ofWanted h).1 hv
      exact h.notCommon key hkey (List.mem_map.2 ⟨(key, given), hmem, rfl⟩)
    rw [given?, hnone]
    rfl
  known key hkey := by
    obtain ⟨v, hv⟩ := Dict.mem_keys_iff.1 hkey
    obtain ⟨given, hmem, -⟩ := (find?_ofWanted h).1 hv
    exact List.mem_append_left _ (List.mem_map.2 ⟨(key, given), hmem, rfl⟩)

/-- **A parameter is read as it was spelled**, if its decoder takes back what it was written as. -/
theorem Spells.read_eq {α : Type} (h : options.Spells wanted) {key : String}
    {decode : OptionDecoder α} (encode : α → Value) {parameter : Option α}
    (hmem : (key, parameter.map encode) ∈ wanted)
    (hdecode : ∀ a, parameter = some a → decode (encode a) = .ok a) :
    options.read validator key decode = .ok parameter := by
  have hgiven := h.given key _ hmem
  cases parameter with
  | none => exact read_of_given?_eq_none hgiven
  | some a => rw [read_of_given?_eq_some hgiven, hdecode a rfl]

end Options

theorem OptionDecoder.count_ofNat {n : Nat} (hn : n ≤ 2 ^ 53) :
    count (.number (.ofNat n)) = .ok n := by
  have hlimit : 2 ^ 53 ≤ countLimit := by decide
  rw [count, Double.toNat?_ofNat hn]
  exact congrArg Except.ok (Nat.min_eq_left (Nat.le_trans hn hlimit))

theorem OptionDecoder.number_of_isNaN_eq_false {x : Double} (hx : x.isNaN = false) :
    number (.number x) = .ok x := by
  rw [number, hx, if_neg Bool.false_ne_true]

/-! ## Nothing is changed afterwards -/

/-- Settings stay as they are where no common option is given. -/
theorem Settings.configuredFrom_of_given?_eq_none (s : Settings)
    (h : ∀ key ∈ commonKeys, options.given? key = none) :
    s.configuredFrom validator options = .ok s := by
  have hempty : options.given? "allowEmpty" = none := h _ (by decide)
  have hmessages : options.given? "messages" = none := h _ (by decide)
  have hmessage : options.given? "message" = none := h _ (by decide)
  rw [configuredFrom, Options.read_of_given?_eq_none hempty,
    Options.read_of_given?_eq_none hmessages, Options.read_of_given?_eq_none hmessage]
  rfl

/-- **Options that spell out a recipe's own names make what the recipe says.** -/
theorem Recipe.Describes.ofOptions_of_spells {r : Recipe} {reading : Reading Validator}
    (h : r.Describes reading) {wanted : List (String × Option Value)}
    (hkeys : wanted.map Prod.fst = r.keys) (ho : options.Spells wanted) :
    Reading.ofOptions validator options reading = r.base validator options := by
  have hfinish : OptionReader.finish ⟨validator, options, r.allKeys.reverse⟩ = .ok () := by
    refine OptionReader.finish_eq_ok_iff.2 fun key hkey => ?_
    rw [List.mem_reverse, Recipe.allKeys, ← hkeys]
    exact ho.known key hkey
  rw [h.denotes.ofOptions_eq, hfinish, Recipe.meaning]
  cases r.base validator options with
  | error e => rfl
  | ok v =>
    rw [ok_bind, Validator.configuredFrom, Settings.configuredFrom_of_given?_eq_none _ ho.common]
    rfl

namespace Builtin

/-! ## The pairs -/

/-- The number check with the bounds that are given. -/
def NumberBuilder.ofBounds (min max : Option Double) : NumberBuilder :=
  let b := min.elim {} ({} : NumberBuilder).withMin
  max.elim b b.withMax

/-- The truth check with the lists that are given. -/
def BooleanBuilder.ofLists (trueValues falseValues : Option (List Value)) : BooleanBuilder :=
  let b := trueValues.elim {} ({} : BooleanBuilder).withTrueValues
  falseValues.elim b b.withFalseValues

/-- The URL check with the schemes and the strictness that are given. -/
def UrlBuilder.ofParts [Regex.Engine] (schemes : Option (List String)) (strict : Option Bool) :
    Except ConfigError UrlBuilder := do
  let b ← schemes.elim (.ok {}) ({} : UrlBuilder).withSchemes
  return strict.elim b b.withStrict

/-- What is made of parameters, under the name of a built-in validator and with the options that
spell the parameters out. -/
inductive Spelling [Regex.Engine] :
    Except ConfigError Validator → String → List (String × Option Value) → Prop
  | required : Spelling (.ok required) "required" []
  | type (expected : String) :
      Spelling (.ok (type expected)) "type" [("type", some (.text expected))]
  | instanceOf {className : String} (h : className ≠ "") :
      Spelling (.ok (instanceOf (.named className))) "instanceOf"
        [("class", some (.text className))]
  | length {min max : Option Nat} (hmin : ∀ n, min = some n → n ≤ 2 ^ 53)
      (hmax : ∀ n, max = some n → n ≤ 2 ^ 53) :
      Spelling (length min max) "length"
        [("min", min.map fun n => .number (.ofNat n)),
          ("max", max.map fun n => .number (.ofNat n))]
  | number {min max : Option Double} (hmin : ∀ x, min = some x → x.isNaN = false)
      (hmax : ∀ x, max = some x → x.isNaN = false) :
      Spelling (.ok (NumberBuilder.ofBounds min max).validator) "number"
        [("min", min.map .number), ("max", max.map .number)]
  | boolean (trueValues falseValues : Option (List Value)) :
      Spelling (.ok (BooleanBuilder.ofLists trueValues falseValues).validator) "boolean"
        [("trueValues", trueValues.map .array), ("falseValues", falseValues.map .array)]
  | anyText : Spelling (.ok (regexp none)) "regexp" [("pattern", none)]
  | regexp (source : String) :
      Spelling (regexpOfSource source) "regexp" [("pattern", some (.text source))]
  | oneOf (values : List Value) :
      Spelling (.ok (range (.oneOf values))) "range"
        [("in", some (.array values)), ("between", none)]
  | between (start stop : Value) :
      Spelling (.ok (range (.between start stop))) "range"
        [("in", none), ("between", some (.array [start, stop]))]
  | url (schemes : Option (List String)) (strict : Option Bool) :
      Spelling ((UrlBuilder.ofParts schemes strict).map UrlBuilder.validator) "url"
        [("schemes", schemes.map fun texts => .array (texts.map .text)),
          ("strict", strict.map .bool), ("pattern", none)]
  | urlPattern (schemes : Option (List String)) (strict : Option Bool) {source : String}
      {r : Regex} (h : Regex.compile source true = .ok r) :
      Spelling ((UrlBuilder.ofParts schemes strict).map fun b => (b.withPattern r).validator) "url"
        [("schemes", schemes.map fun texts => .array (texts.map .text)),
          ("strict", strict.map .bool), ("pattern", some (.text source))]
  | email : Spelling (.ok email) "email" [("pattern", none)]
  | emailPattern {source : String} {r : Regex} (h : Regex.compile source false = .ok r) :
      Spelling (.ok (emailWith r.pattern)) "email" [("pattern", some (.text source))]
  | ip : Spelling (.ok ipAny) "ip" [("v4", none), ("v6", none)]
  | ipV4Only : Spelling (.ok ipV4Only) "ip" [("v4", none), ("v6", some (.bool false))]
  | ipV6Only : Spelling (.ok ipV6Only) "ip" [("v4", some (.bool false)), ("v6", none)]
  | hostname : Spelling (.ok hostname) "hostname" []
  | date : Spelling (.ok date) "date" []
  | time : Spelling (.ok time) "time" []
  | datetime : Spelling (.ok datetime) "datetime" []

variable {made : Except ConfigError Validator} {wanted : List (String × Option Value)}

theorem NumberBuilder.validator_ofBounds (min max : Option Double) :
    (NumberBuilder.ofBounds min max).validator = Builtin.number min max := by
  cases min <;> cases max <;> rfl

theorem BooleanBuilder.validator_ofLists (trueValues falseValues : Option (List Value)) :
    (BooleanBuilder.ofLists trueValues falseValues).validator =
      Builtin.boolean (trueValues.getD [.bool true]) (falseValues.getD [.bool false]) := by
  cases trueValues <;> cases falseValues <;> rfl

/-- The builder is either refused for its schemes or has the parts in place of the usual ones. -/
theorem UrlBuilder.ofParts_eq [Regex.Engine] (schemes : Option (List String))
    (strict : Option Bool) :
    UrlBuilder.ofParts schemes strict =
      (schemesPatternOrWeb schemes).map fun pattern =>
        ⟨schemes.getD Address.webSchemes, strict.getD true, pattern⟩ := by
  rw [ofParts]
  cases schemes with
  | none => cases strict <;> rfl
  | some schemes =>
    rw [Option.getD_some, Option.elim_some, withSchemes, schemesPatternOrWeb]
    cases schemesPattern schemes with
    | error e => rfl
    | ok pattern => cases strict <;> rfl

theorem compileOption_of_compile [Regex.Engine] {option source : String} {ignoreCase : Bool}
    {r : Regex} (h : Regex.compile source ignoreCase = .ok r) :
    compileOption validator option source ignoreCase = .ok r := by
  rw [compileOption, h]

/-! ## What the recipes make of options that spell their parameters out -/

theorem base_type {expected : String} (ho : options.Spells [("type", some (.text expected))]) :
    typeRecipe.base "type" options = .ok (type expected) := by
  have hread : options.read "type" "type" OptionDecoder.text = .ok (some expected) :=
    ho.read_eq Value.text List.mem_cons_self fun _ _ => rfl
  simp only [typeRecipe, hread]
  rfl

theorem base_instanceOf {className : String} (hname : className ≠ "")
    (ho : options.Spells [("class", some (.text className))]) :
    instanceOfRecipe.base "instanceOf" options = .ok (instanceOf (.named className)) := by
  have hread : options.read "instanceOf" "class" OptionDecoder.text = .ok (some className) :=
    ho.read_eq Value.text List.mem_cons_self fun _ _ => rfl
  have hempty : className.isEmpty = false := by simpa using hname
  simp only [instanceOfRecipe, hread, ok_bind, classNamed, hempty, Bool.false_eq_true, if_false]

theorem base_length {min max : Option Nat} (hmin : ∀ n, min = some n → n ≤ 2 ^ 53)
    (hmax : ∀ n, max = some n → n ≤ 2 ^ 53)
    (ho : options.Spells [("min", min.map fun n => .number (.ofNat n)),
      ("max", max.map fun n => .number (.ofNat n))]) :
    lengthRecipe.base "length" options = length min max := by
  have hreadMin : options.read "length" "min" OptionDecoder.count = .ok min :=
    ho.read_eq (fun n => .number (.ofNat n)) List.mem_cons_self
      fun n hn => OptionDecoder.count_ofNat (hmin n hn)
  have hreadMax : options.read "length" "max" OptionDecoder.count = .ok max :=
    ho.read_eq (fun n => .number (.ofNat n)) (List.mem_cons_of_mem _ List.mem_cons_self)
      fun n hn => OptionDecoder.count_ofNat (hmax n hn)
  simp only [lengthRecipe, hreadMin, hreadMax, ok_bind]

theorem base_number {min max : Option Double} (hmin : ∀ x, min = some x → x.isNaN = false)
    (hmax : ∀ x, max = some x → x.isNaN = false)
    (ho : options.Spells [("min", min.map .number), ("max", max.map .number)]) :
    numberRecipe.base "number" options = .ok (number min max) := by
  have hreadMin : options.read "number" "min" OptionDecoder.number = .ok min :=
    ho.read_eq Value.number List.mem_cons_self
      fun x hx => OptionDecoder.number_of_isNaN_eq_false (hmin x hx)
  have hreadMax : options.read "number" "max" OptionDecoder.number = .ok max :=
    ho.read_eq Value.number (List.mem_cons_of_mem _ List.mem_cons_self)
      fun x hx => OptionDecoder.number_of_isNaN_eq_false (hmax x hx)
  simp only [numberRecipe, hreadMin, hreadMax, ok_bind]
  rfl

theorem base_boolean {trueValues falseValues : Option (List Value)}
    (ho : options.Spells [("trueValues", trueValues.map .array),
      ("falseValues", falseValues.map .array)]) :
    booleanRecipe.base "boolean" options =
      .ok (boolean (trueValues.getD [.bool true]) (falseValues.getD [.bool false])) := by
  have hreadTrue : options.read "boolean" "trueValues" OptionDecoder.list = .ok trueValues :=
    ho.read_eq Value.array List.mem_cons_self fun _ _ => rfl
  have hreadFalse : options.read "boolean" "falseValues" OptionDecoder.list = .ok falseValues :=
    ho.read_eq Value.array (List.mem_cons_of_mem _ List.mem_cons_self)
      fun _ _ => rfl
  simp only [booleanRecipe, hreadTrue, hreadFalse, ok_bind]
  rfl

theorem base_regexp [Regex.Engine] (source : Option String)
    (ho : options.Spells [("pattern", source.map .text)]) :
    regexpRecipe.base "regexp" options = regexpOf source := by
  have hread : options.read "regexp" "pattern" OptionDecoder.text = .ok source :=
    ho.read_eq Value.text List.mem_cons_self fun _ _ => rfl
  simp only [regexpRecipe, hread, ok_bind]

theorem base_range (values between : Option (List Value))
    (ho : options.Spells [("in", values.map .array), ("between", between.map .array)]) :
    rangeRecipe.base "range" options = (rangeBounds values between).map range := by
  have hreadIn : options.read "range" "in" OptionDecoder.list = .ok values :=
    ho.read_eq Value.array List.mem_cons_self fun _ _ => rfl
  have hreadBetween : options.read "range" "between" OptionDecoder.list = .ok between :=
    ho.read_eq Value.array (List.mem_cons_of_mem _ List.mem_cons_self)
      fun _ _ => rfl
  simp only [rangeRecipe, hreadIn, hreadBetween, ok_bind]
  cases rangeBounds values between <;> rfl

/-- The schemes are compiled before the rest is read, whether or not a pattern replaces theirs. -/
theorem base_url [Regex.Engine] (schemes : Option (List String)) (strict : Option Bool)
    (source : Option String)
    (ho : options.Spells [("schemes", schemes.map fun texts => .array (texts.map .text)),
      ("strict", strict.map .bool), ("pattern", source.map .text)]) :
    urlRecipe.base "url" options = (do
      let b ← UrlBuilder.ofParts schemes strict
      let pattern ← urlPattern b.pattern source
      return urlWith b.schemes b.strict pattern) := by
  have hreadSchemes : options.read "url" "schemes" OptionDecoder.texts = .ok schemes :=
    ho.read_eq (fun texts => .array (texts.map .text)) List.mem_cons_self
      fun _ _ => OptionDecoder.texts_eq_ok_iff.2 rfl
  have hreadStrict : options.read "url" "strict" OptionDecoder.bool = .ok strict :=
    ho.read_eq Value.bool (List.mem_cons_of_mem _ List.mem_cons_self)
      fun _ _ => rfl
  have hreadPattern : options.read "url" "pattern" OptionDecoder.text = .ok source :=
    ho.read_eq Value.text
      (List.mem_cons_of_mem _ (List.mem_cons_of_mem _ List.mem_cons_self)) fun _ _ => rfl
  simp only [urlRecipe, hreadSchemes, hreadStrict, hreadPattern, ok_bind, UrlBuilder.ofParts_eq]
  cases schemesPatternOrWeb schemes <;> rfl

theorem base_email [Regex.Engine] (source : Option String)
    (ho : options.Spells [("pattern", source.map .text)]) :
    emailRecipe.base "email" options = emailOf source := by
  have hread : options.read "email" "pattern" OptionDecoder.text = .ok source :=
    ho.read_eq Value.text List.mem_cons_self fun _ _ => rfl
  simp only [emailRecipe, hread, ok_bind]

theorem base_ip (v4 v6 : Option Bool)
    (ho : options.Spells [("v4", v4.map .bool), ("v6", v6.map .bool)]) :
    ipRecipe.base "ip" options = .ok (ip (v4.getD true) (v6.getD true)) := by
  have hreadV4 : options.read "ip" "v4" OptionDecoder.bool = .ok v4 :=
    ho.read_eq Value.bool List.mem_cons_self fun _ _ => rfl
  have hreadV6 : options.read "ip" "v6" OptionDecoder.bool = .ok v6 :=
    ho.read_eq Value.bool (List.mem_cons_of_mem _ List.mem_cons_self)
      fun _ _ => rfl
  simp only [ipRecipe, hreadV4, hreadV6, ok_bind]
  rfl

/-! ## The two ways agree -/

/-- Each pair belongs to a recipe, whose names it has. -/
theorem Spelling.exists_recipe [Regex.Engine] (h : Spelling made name wanted) :
    ∃ recipe, recipes.lookup name = some recipe ∧ wanted.map Prod.fst = recipe.keys ∧
      ∀ options : Options, options.Spells wanted → recipe.base name options = made := by
  cases h with
  | required => exact ⟨_, rfl, rfl, fun _ _ => rfl⟩
  | type => exact ⟨typeRecipe, rfl, rfl, fun _ ho => base_type ho⟩
  | instanceOf hname => exact ⟨instanceOfRecipe, rfl, rfl, fun _ ho => base_instanceOf hname ho⟩
  | length hmin hmax => exact ⟨lengthRecipe, rfl, rfl, fun _ ho => base_length hmin hmax ho⟩
  | number hmin hmax =>
    rw [NumberBuilder.validator_ofBounds]
    exact ⟨numberRecipe, rfl, rfl, fun _ ho => base_number hmin hmax ho⟩
  | boolean trueValues falseValues =>
    rw [BooleanBuilder.validator_ofLists]
    exact ⟨booleanRecipe, rfl, rfl, fun _ ho => base_boolean ho⟩
  | anyText => exact ⟨regexpRecipe, rfl, rfl, fun _ ho => base_regexp none ho⟩
  | regexp source =>
    exact ⟨regexpRecipe, rfl, rfl, fun _ ho => base_regexp (some source) ho⟩
  | oneOf values =>
    exact ⟨rangeRecipe, rfl, rfl, fun _ ho =>
      base_range (some values) none ho⟩
  | between start stop =>
    exact ⟨rangeRecipe, rfl, rfl, fun _ ho =>
      base_range none (some [start, stop]) ho⟩
  | url schemes strict =>
    refine ⟨urlRecipe, rfl, rfl, fun _ ho => (base_url schemes strict none ho).trans ?_⟩
    cases UrlBuilder.ofParts schemes strict <;> rfl
  | @urlPattern schemes strict source r hr =>
    refine ⟨urlRecipe, rfl, rfl, fun _ ho => (base_url schemes strict (some source) ho).trans ?_⟩
    simp only [Builtin.urlPattern, compileOption_of_compile hr]
    cases UrlBuilder.ofParts schemes strict <;> rfl
  | email => exact ⟨emailRecipe, rfl, rfl, fun _ ho => base_email none ho⟩
  | @emailPattern source r hr =>
    refine ⟨emailRecipe, rfl, rfl, fun _ ho => (base_email (some source) ho).trans ?_⟩
    rw [emailOf, compileOption_of_compile hr]
    rfl
  | ip => exact ⟨ipRecipe, rfl, rfl, fun _ ho => base_ip none none ho⟩
  | ipV4Only =>
    exact ⟨ipRecipe, rfl, rfl, fun _ ho => base_ip none (some false) ho⟩
  | ipV6Only =>
    exact ⟨ipRecipe, rfl, rfl, fun _ ho => base_ip (some false) none ho⟩
  | hostname => exact ⟨_, rfl, rfl, fun _ _ => rfl⟩
  | date => exact ⟨_, rfl, rfl, fun _ _ => rfl⟩
  | time => exact ⟨_, rfl, rfl, fun _ _ => rfl⟩
  | datetime => exact ⟨_, rfl, rfl, fun _ _ => rfl⟩

/-- No parameter is written as a value that counts as absent. -/
theorem Spelling.isNullish_eq_false [Regex.Engine] (h : Spelling made name wanted) :
    ∀ entry ∈ wanted, ∀ v, entry.2 = some v → v.isNullish = false := by
  cases h with
  | url schemes strict => cases strict <;> simp
  | urlPattern schemes strict => cases strict <;> simp
  | _ => simp

theorem Spelling.spellable [Regex.Engine] (h : Spelling made name wanted) :
    Options.Spellable wanted := by
  obtain ⟨recipe, hrecipe, hkeys, -⟩ := h.exists_recipe
  refine ⟨?_, ?_, fun key v hmem => h.isNullish_eq_false _ hmem v rfl⟩
  · have hall : ∀ entry ∈ ownKeys, entry.2.Nodup := by decide
    rw [hkeys]
    exact hall _ (mem_ownKeys_of_lookup hrecipe)
  · rw [hkeys]
    exact notMem_keys_of_lookup hrecipe

/-- A recipe of the catalogue has its factory. -/
theorem exists_factory?_of_recipe [Regex.Engine] {recipe : Recipe}
    (h : recipes.lookup name = some recipe) :
    ∃ reading, recipe.Describes reading ∧
      factory? name = some fun options => Reading.ofOptions name options reading := by
  have hmem : name ∈ recipes.map (·.1) :=
    List.mem_map.2 ⟨(name, recipe), (lookup_eq_some_iff_mem nodup_names_recipes).1 h, rfl⟩
  have hnames : recipes.map (·.1) = catalogue.map (·.1) := rfl
  rw [hnames] at hmem
  obtain ⟨entry, hentry, hname⟩ := List.mem_map.1 hmem
  have hfactory : factory? name = some entry.2 :=
    (lookup_eq_some_iff_mem nodup_names_catalogue).2 (hname ▸ hentry)
  obtain ⟨other, hother, reading, hreading, heq⟩ := exists_recipe_of_factory? hfactory
  obtain rfl : other = recipe := Option.some.inj (hother.symm.trans h)
  exact ⟨reading, hreading, hfactory.trans (congrArg some heq)⟩

/-- The factory of the name makes the same of the options. -/
theorem Spelling.factory_eq [Regex.Engine] (h : Spelling made name wanted) {factory : Factory}
    (hfactory : factory? name = some factory) (ho : options.Spells wanted) :
    factory options = made := by
  obtain ⟨recipe, hrecipe, hkeys, hbase⟩ := h.exists_recipe
  obtain ⟨reading, hreading, hmade⟩ := exists_factory?_of_recipe hrecipe
  obtain rfl := Option.some.inj (hmade.symm.trans hfactory)
  exact (hreading.ofOptions_of_spells hkeys ho).trans (hbase options ho)

/-- **Made of parameters or from the options that spell them out, a built-in validator is the
same**, with its settings and all its configuration, and it is refused for the same reason.  There
are such options for every pair.  Without a bound there is no length check, and a pattern that does
not compile is reported under its name. -/
theorem factory_eq_of_spells [Regex.Engine] :
    (∀ made name wanted, Spelling made name wanted →
      (∃ options : Options, options.Spells wanted) ∧
        ∃ factory, factory? name = some factory ∧
          ∀ options : Options, options.Spells wanted → factory options = made) ∧
      length none none = .error (.missingOption "length" "min or max") ∧
      ∀ source fault, Regex.compile source false = .error fault →
        regexpOfSource source = .error (.invalidOption "regexp" "pattern" (.badPattern fault)) := by
  refine ⟨fun made name wanted h => ⟨⟨_, Options.spells_ofWanted h.spellable⟩, ?_⟩, rfl, ?_⟩
  · obtain ⟨recipe, hrecipe, hkeys, hbase⟩ := h.exists_recipe
    obtain ⟨reading, hreading, hfactory⟩ := exists_factory?_of_recipe hrecipe
    refine ⟨_, hfactory, fun options ho => ?_⟩
    rw [hreading.ofOptions_of_spells hkeys ho]
    exact hbase options ho
  · intro source fault hfault
    rw [regexpOfSource, compileOption, hfault]
    rfl

section

attribute [local instance] Regex.Engine.standard

/-- One bound is given and the other one is null. -/
theorem factory_eq_of_spells_min :
    ∃ factory, factory? "length" = some factory ∧
      factory (.ofList [("min", .number (.ofNat 3)), ("max", .null)]) =
        .ok (bounded (some 3) none) := by
  have hmin : ∀ n, some 3 = some n → n ≤ 2 ^ 53 := by
    rintro _ ⟨⟩
    decide
  have hspelling : Spelling (length (some 3) none) "length"
      [("min", some (.number (.ofNat 3))), ("max", none)] := .length hmin fun _ h => nomatch h
  obtain ⟨-, factory, hfactory, hmade⟩ := factory_eq_of_spells.1 _ _ _ hspelling
  exact ⟨factory, hfactory, hmade _ (Options.spells_ofWanted hspelling.spellable)⟩

end

end Builtin

end Vetting
