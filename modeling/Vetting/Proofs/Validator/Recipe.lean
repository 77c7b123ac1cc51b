import Vetting.Validator.Builtin
import Vetting.Proofs.Lookup
import Vetting.Proofs.Options.Common

/-!
# How the validators of the catalogue are made

The reading of every validator falls into two parts: its own options come first, and the common ones
follow.  A `Recipe` tells the first part without a reader, as the names it reads and what comes of
the options; `Recipe.Describes` says that a reading is that part followed by the common options.

The catalogue has one recipe for each entry (`Builtin.recipes`), and so has a validator made of a
test, whose own part is empty.  From then on nothing needs to look into a reading:

* `Builtin.exists_recipe_of_factory?`: the factory of a built-in name makes what its recipe says;
* `Recipe.Describes.denotes`: such a reading knows the names of its recipe and the common ones, and
  means the recipe followed by the common options.
-/

namespace Vetting

variable {validator : String} {options : Options} {e : ConfigError}

/-- A validator made of its own options: the names that are read, and what comes of them. -/
structure Recipe where
  keys : List String
  base : String → Options → Except ConfigError Validator

namespace Recipe

/-- A validator without options of its own. -/
def plain (v : Validator) : Recipe := ⟨[], fun _ _ => .ok v⟩

/-- All names that a validator knows. -/
def allKeys (r : Recipe) : List String := r.keys ++ Settings.commonKeys

/-- What comes of options, unless a name among them is unknown: first the validator's own options
and then the common ones. -/
def meaning (r : Recipe) (validator : String) (options : Options) :
    Except ConfigError Validator := do
  (← r.base validator options).configuredFrom validator options

/-- A reading that follows the recipe and then applies the common options. -/
def Describes (r : Recipe) (reading : Reading Validator) : Prop :=
  ∃ own : Reading Validator, own.Denotes r.keys r.base ∧
    reading = own >>= Validator.configured

theorem Describes.denotes {r : Recipe} {reading : Reading Validator} (h : r.Describes reading) :
    reading.Denotes r.allKeys r.meaning := by
  obtain ⟨own, hown, rfl⟩ := h
  exact hown.bind fun v => v.denotes_configured

theorem describes_plain (v : Validator) : (plain v).Describes v.configured :=
  ⟨pure v, .pure v, (pure_bind v Validator.configured).symm⟩

end Recipe

namespace Builtin

open Reading (Denotes)

/-! ## The recipes -/

def typeRecipe : Recipe where
  keys := ["type"]
  base validator options := do
    let expected ← options.read validator "type" OptionDecoder.text
    return type (expected.getD "string")

/-- The class check of a name, which must be given and not empty. -/
def classNamed : Option String → Except ConfigError Validator
  | none => .error (.missingOption "instanceOf" "class")
  | some name =>
    if name.isEmpty then .error (.invalidOption "instanceOf" "class" .emptyClassName)
    else .ok (instanceOf (.named name))

def instanceOfRecipe : Recipe where
  keys := ["class"]
  base validator options := do
    classNamed (← options.read validator "class" OptionDecoder.text)

def lengthRecipe : Recipe where
  keys := ["min", "max"]
  base validator options := do
    let min ← options.read validator "min" OptionDecoder.count
    let max ← options.read validator "max" OptionDecoder.count
    length min max

def numberRecipe : Recipe where
  keys := ["min", "max"]
  base validator options := do
    let min ← options.read validator "min" OptionDecoder.number
    let max ← options.read validator "max" OptionDecoder.number
    return number min max

def booleanRecipe : Recipe where
  keys := ["trueValues", "falseValues"]
  base validator options := do
    let trueValues ← options.read validator "trueValues" OptionDecoder.list
    let falseValues ← options.read validator "falseValues" OptionDecoder.list
    return boolean (trueValues.getD [.bool true]) (falseValues.getD [.bool false])

/-- The pattern check of a source; without one every text passes. -/
def regexpOf [Regex.Engine] : Option String → Except ConfigError Validator
  | none => .ok (regexp none)
  | some source => regexpOfSource source

def regexpRecipe [Regex.Engine] : Recipe where
  keys := ["pattern"]
  base validator options := do
    regexpOf (← options.read validator "pattern" OptionDecoder.text)

def rangeRecipe : Recipe where
  keys := ["in", "between"]
  base validator options := do
    let values ← options.read validator "in" OptionDecoder.list
    let between ← options.read validator "between" OptionDecoder.list
    return range (← rangeBounds values between)

/-- The pattern of a URL check: the one given, or else that of the schemes. -/
def urlPattern [Regex.Engine] (default : Regex.Pattern) :
    Option String → Except ConfigError Regex.Pattern
  | none => .ok default
  | some source => (compileOption "url" "pattern" source true).map Regex.pattern

def urlRecipe [Regex.Engine] : Recipe where
  keys := ["schemes", "strict", "pattern"]
  base validator options := do
    let schemes ← options.read validator "schemes" OptionDecoder.texts
    let default ← schemesPatternOrWeb schemes
    let strict ← options.read validator "strict" OptionDecoder.bool
    let pattern ← urlPattern default (← options.read validator "pattern" OptionDecoder.text)
    return urlWith (schemes.getD Address.webSchemes) (strict.getD true) pattern

/-- The mail check with a pattern of its own or the usual one. -/
def emailOf [Regex.Engine] : Option String → Except ConfigError Validator
  | none => .ok email
  | some source =>
    (compileOption "email" "pattern" source false).map fun r => emailWith r.pattern

def emailRecipe [Regex.Engine] : Recipe where
  keys := ["pattern"]
  base validator options := do
    emailOf (← options.read validator "pattern" OptionDecoder.text)

def ipRecipe : Recipe where
  keys := ["v4", "v6"]
  base validator options := do
    let v4 ← options.read validator "v4" OptionDecoder.bool
    let v6 ← options.read validator "v6" OptionDecoder.bool
    return ip (v4.getD true) (v6.getD true)

/-- The recipes of the built-in validators. -/
def recipes [Regex.Engine] : List (String × Recipe) := [
  ("required", .plain required),
  ("type", typeRecipe),
  ("instanceOf", instanceOfRecipe),
  ("length", lengthRecipe),
  ("number", numberRecipe),
  ("boolean", booleanRecipe),
  ("regexp", regexpRecipe),
  ("range", rangeRecipe),
  ("url", urlRecipe),
  ("email", emailRecipe),
  ("ip", ipRecipe),
  ("hostname", .plain hostname),
  ("date", .plain date),
  ("time", .plain time),
  ("datetime", .plain datetime)]

/-- The names of the built-in validators and of the options of their own. -/
def ownKeys : List (String × List String) := [
  ("required", []),
  ("type", ["type"]),
  ("instanceOf", ["class"]),
  ("length", ["min", "max"]),
  ("number", ["min", "max"]),
  ("boolean", ["trueValues", "falseValues"]),
  ("regexp", ["pattern"]),
  ("range", ["in", "between"]),
  ("url", ["schemes", "strict", "pattern"]),
  ("email", ["pattern"]),
  ("ip", ["v4", "v6"]),
  ("hostname", []),
  ("date", []),
  ("time", []),
  ("datetime", [])]

/-- The names do not depend on the engine. -/
theorem map_keys_recipes [Regex.Engine] :
    recipes.map (fun entry => (entry.1, entry.2.keys)) = ownKeys := rfl

theorem nodup_names_recipes [Regex.Engine] : (recipes.map (·.1)).Nodup := by
  have hnodup : (ownKeys.map (·.1)).Nodup := by decide
  rwa [← map_keys_recipes, List.map_map] at hnodup

theorem nodup_names_catalogue [Regex.Engine] : (catalogue.map (·.1)).Nodup := nodup_names_recipes

theorem mem_ownKeys_of_lookup [Regex.Engine] {name : String} {recipe : Recipe}
    (h : recipes.lookup name = some recipe) : (name, recipe.keys) ∈ ownKeys := by
  rw [← map_keys_recipes]
  exact List.mem_map.2 ⟨_, (lookup_eq_some_iff_mem nodup_names_recipes).1 h, rfl⟩

/-! ## The recipes describe the catalogue

No step of a recipe calls an option unknown.  Each reading is brought into the form of its own part
and the common options by the monad laws; where a reading branches on an answer, the branches are
compared one by one. -/

theorem neverUnknown_classNamed (name : Option String) : NeverUnknown (classNamed name) := by
  cases name with
  | none => exact .error id
  | some name =>
    rw [classNamed]
    split
    · exact .error id
    · exact .ok _

theorem neverUnknown_length (min max : Option Nat) : NeverUnknown (length min max) := by
  cases min with
  | some _ => exact .ok _
  | none =>
    cases max with
    | some _ => exact .ok _
    | none => exact .error id

theorem neverUnknown_compileOption [Regex.Engine] (option source : String) (ignoreCase : Bool) :
    NeverUnknown (compileOption validator option source ignoreCase) := by
  rw [compileOption]
  split
  · exact .ok _
  · exact .error id

theorem neverUnknown_regexpOf [Regex.Engine] (source : Option String) :
    NeverUnknown (regexpOf source) := by
  cases source with
  | none => exact .ok _
  | some source => exact (neverUnknown_compileOption _ source _).map

theorem neverUnknown_rangeBounds (values between : Option (List Value)) :
    NeverUnknown (rangeBounds values between) := by
  unfold rangeBounds
  split
  · exact .ok _
  · exact .ok _
  · exact .error id
  · exact .error id
  · exact .error id

theorem neverUnknown_schemesPattern [Regex.Engine] (schemes : List String) :
    NeverUnknown (schemesPattern schemes) := by
  rw [schemesPattern]
  split
  · exact .ok _
  · exact .error id

theorem neverUnknown_schemesPatternOrWeb [Regex.Engine] (schemes : Option (List String)) :
    NeverUnknown (schemesPatternOrWeb schemes) := by
  cases schemes with
  | none => exact .ok _
  | some schemes => exact neverUnknown_schemesPattern schemes

theorem neverUnknown_urlPattern [Regex.Engine] (default : Regex.Pattern) (source : Option String) :
    NeverUnknown (urlPattern default source) := by
  cases source with
  | none => exact .ok _
  | some source => exact (neverUnknown_compileOption _ source _).map

theorem neverUnknown_emailOf [Regex.Engine] (source : Option String) :
    NeverUnknown (emailOf source) := by
  cases source with
  | none => exact .ok _
  | some source => exact (neverUnknown_compileOption _ source _).map

theorem describes_type : typeRecipe.Describes typeReading := by
  refine ⟨do
    let expected ← Reading.read "type" OptionDecoder.text
    return type (expected.getD "string"), ?_, ?_⟩
  · exact ((Denotes.read _ _).bind fun _ => .pure _).of_eq rfl fun _ _ => rfl
  · simp only [typeReading, bind_assoc, pure_bind]

theorem describes_instanceOf : instanceOfRecipe.Describes instanceOfReading := by
  refine ⟨do
    let name ← Reading.read "class" OptionDecoder.text
    Reading.ofExcept (classNamed name), ?_, ?_⟩
  · exact ((Denotes.read _ _).bind fun _ =>
      .ofExcept (neverUnknown_classNamed _)).of_eq rfl fun _ _ => rfl
  · rw [instanceOfReading, bind_assoc]
    refine bind_congr fun name => ?_
    cases name with
    | none => rfl
    | some name =>
      rw [classNamed]
      dsimp only
      split <;> rfl

theorem describes_length : lengthRecipe.Describes lengthReading := by
  refine ⟨do
    let min ← Reading.read "min" OptionDecoder.count
    let max ← Reading.read "max" OptionDecoder.count
    Reading.ofExcept (length min max), ?_, ?_⟩
  · exact ((Denotes.read _ _).bind fun _ => (Denotes.read _ _).bind fun _ =>
      .ofExcept (neverUnknown_length _ _)).of_eq rfl fun _ _ => rfl
  · simp only [lengthReading, bind_assoc]

theorem describes_number : numberRecipe.Describes numberReading := by
  refine ⟨do
    let min ← Reading.read "min" OptionDecoder.number
    let max ← Reading.read "max" OptionDecoder.number
    return number min max, ?_, ?_⟩
  · exact ((Denotes.read _ _).bind fun _ => (Denotes.read _ _).bind fun _ =>
      .pure _).of_eq rfl fun _ _ => rfl
  · simp only [numberReading, bind_assoc, pure_bind]

theorem describes_boolean : booleanRecipe.Describes booleanReading := by
  refine ⟨do
    let trueValues ← Reading.read "trueValues" OptionDecoder.list
    let falseValues ← Reading.read "falseValues" OptionDecoder.list
    return boolean (trueValues.getD [.bool true]) (falseValues.getD [.bool false]), ?_, ?_⟩
  · exact ((Denotes.read _ _).bind fun _ => (Denotes.read _ _).bind fun _ =>
      .pure _).of_eq rfl fun _ _ => rfl
  · simp only [booleanReading, bind_assoc, pure_bind]

theorem describes_regexp [Regex.Engine] : regexpRecipe.Describes regexpReading := by
  refine ⟨do
    let source ← Reading.read "pattern" OptionDecoder.text
    Reading.ofExcept (regexpOf source), ?_, ?_⟩
  · exact ((Denotes.read _ _).bind fun _ =>
      .ofExcept (neverUnknown_regexpOf _)).of_eq rfl fun _ _ => rfl
  · rw [regexpReading, bind_assoc]
    refine bind_congr fun source => ?_
    cases source <;> rfl

theorem describes_range : rangeRecipe.Describes rangeReading := by
  refine ⟨do
    let values ← Reading.read "in" OptionDecoder.list
    let between ← Reading.read "between" OptionDecoder.list
    let bounds ← Reading.ofExcept (rangeBounds values between)
    return range bounds, ?_, ?_⟩
  · exact ((Denotes.read _ _).bind fun _ => (Denotes.read _ _).bind fun _ =>
      (Denotes.ofExcept (neverUnknown_rangeBounds _ _)).bind fun _ =>
        .pure _).of_eq rfl fun _ _ => rfl
  · simp only [rangeReading, bind_assoc, pure_bind]

theorem describes_url [Regex.Engine] : urlRecipe.Describes urlReading := by
  refine ⟨do
    let schemes ← Reading.read "schemes" OptionDecoder.texts
    let default ← Reading.ofExcept (schemesPatternOrWeb schemes)
    let strict ← Reading.read "strict" OptionDecoder.bool
    let source ← Reading.read "pattern" OptionDecoder.text
    let pattern ← Reading.ofExcept (urlPattern default source)
    return urlWith (schemes.getD Address.webSchemes) (strict.getD true) pattern, ?_, ?_⟩
  · exact ((Denotes.read _ _).bind fun _ =>
      (Denotes.ofExcept (neverUnknown_schemesPatternOrWeb _)).bind fun _ =>
        (Denotes.read _ _).bind fun _ => (Denotes.read _ _).bind fun _ =>
          (Denotes.ofExcept (neverUnknown_urlPattern _ _)).bind fun _ =>
            .pure _).of_eq rfl fun _ _ => rfl
  · simp only [urlReading, bind_assoc, pure_bind]
    refine bind_congr fun schemes => bind_congr fun default => bind_congr fun strict =>
      bind_congr fun source => ?_
    cases source with
    | none => rfl
    | some source =>
      dsimp only [urlPattern]
      cases compileOption "url" "pattern" source true <;> rfl

theorem describes_email [Regex.Engine] : emailRecipe.Describes emailReading := by
  refine ⟨do
    let source ← Reading.read "pattern" OptionDecoder.text
    Reading.ofExcept (emailOf source), ?_, ?_⟩
  · exact ((Denotes.read _ _).bind fun _ =>
      .ofExcept (neverUnknown_emailOf _)).of_eq rfl fun _ _ => rfl
  · rw [emailReading, bind_assoc]
    refine bind_congr fun source => ?_
    cases source with
    | none => rfl
    | some source =>
      dsimp only [emailOf]
      cases compileOption "email" "pattern" source false <;> rfl

theorem describes_ip : ipRecipe.Describes ipReading := by
  refine ⟨do
    let v4 ← Reading.read "v4" OptionDecoder.bool
    let v6 ← Reading.read "v6" OptionDecoder.bool
    return ip (v4.getD true) (v6.getD true), ?_, ?_⟩
  · exact ((Denotes.read _ _).bind fun _ => (Denotes.read _ _).bind fun _ =>
      .pure _).of_eq rfl fun _ _ => rfl
  · simp only [ipReading, bind_assoc, pure_bind]

/-- **Each entry of the catalogue has its recipe, under the same name.** -/
theorem forall₂_readings_recipes [Regex.Engine] :
    List.Forall₂ (fun entry recipe => entry.1 = recipe.1 ∧ recipe.2.Describes entry.2)
      readings recipes :=
  .cons ⟨rfl, Recipe.describes_plain required⟩ <|
  .cons ⟨rfl, describes_type⟩ <|
  .cons ⟨rfl, describes_instanceOf⟩ <|
  .cons ⟨rfl, describes_length⟩ <|
  .cons ⟨rfl, describes_number⟩ <|
  .cons ⟨rfl, describes_boolean⟩ <|
  .cons ⟨rfl, describes_regexp⟩ <|
  .cons ⟨rfl, describes_range⟩ <|
  .cons ⟨rfl, describes_url⟩ <|
  .cons ⟨rfl, describes_email⟩ <|
  .cons ⟨rfl, describes_ip⟩ <|
  .cons ⟨rfl, Recipe.describes_plain hostname⟩ <|
  .cons ⟨rfl, Recipe.describes_plain date⟩ <|
  .cons ⟨rfl, Recipe.describes_plain time⟩ <|
  .cons ⟨rfl, Recipe.describes_plain datetime⟩ .nil

/-- **The factory of a built-in name makes what its recipe says.** -/
theorem exists_recipe_of_factory? [Regex.Engine] {name : String} {factory : Factory}
    (h : factory? name = some factory) :
    ∃ recipe, recipes.lookup name = some recipe ∧ ∃ reading, recipe.Describes reading ∧
      factory = fun options => Reading.ofOptions name options reading := by
  have hcatalogue : List.Forall₂ (fun (entry : String × Factory)
      (source : String × Reading Validator) => entry.1 = source.1 ∧
        entry.2 = fun options => Reading.ofOptions entry.1 options source.2)
      catalogue readings :=
    List.forall₂_map_left_iff.2 (List.forall₂_same.2 fun _ _ => ⟨rfl, rfl⟩)
  obtain ⟨reading, hreading, hfactory⟩ := exists_lookup_of_forall₂
    (fun name factory reading => factory = fun options => Reading.ofOptions name options reading)
    hcatalogue h
  obtain ⟨recipe, hrecipe, hdescribes⟩ := exists_lookup_of_forall₂
    (fun _ reading recipe => Recipe.Describes recipe reading) forall₂_readings_recipes hreading
  exact ⟨recipe, hrecipe, reading, hdescribes, hfactory⟩

end Builtin

/-! ## Standard factories -/

/-- The factories of the built-in validators and of validators made of a test, with the names under
which they report errors. -/
inductive Factory.Standard [Regex.Engine] (name : String) : Factory → Prop
  | builtin {factory : Factory} (h : Builtin.factory? name = some factory) : Standard name factory
  | custom (message : String) (test : Value → Bool) :
      Standard name (Validator.custom name message (some test)).configure

/-- No built-in validator reads an option with the name of the key under which a rule has its
validator's name. -/
theorem Builtin.name_notMem_allKeys [Regex.Engine] {name : String} {recipe : Recipe}
    (h : recipes.lookup name = some recipe) : "name" ∉ recipe.allKeys := by
  have hall : ∀ entry ∈ ownKeys, "name" ∉ entry.2 ++ Settings.commonKeys := by decide
  exact hall _ (mem_ownKeys_of_lookup h)

/-- **A standard factory makes what a recipe says**, and `name` is none of its options. -/
theorem Factory.Standard.exists_recipe [Regex.Engine] {name : String} {factory : Factory}
    (h : Factory.Standard name factory) :
    ∃ recipe : Recipe, "name" ∉ recipe.allKeys ∧ ∃ reading, recipe.Describes reading ∧
      factory = fun options => Reading.ofOptions name options reading := by
  cases h with
  | builtin h =>
    obtain ⟨recipe, hrecipe, hreading⟩ := Builtin.exists_recipe_of_factory? h
    exact ⟨recipe, Builtin.name_notMem_allKeys hrecipe, hreading⟩
  | custom message test =>
    have hname : "name" ∉ Settings.commonKeys := by decide
    exact ⟨.plain (.custom name message (some test)), hname, _, Recipe.describes_plain _, rfl⟩

end Vetting
