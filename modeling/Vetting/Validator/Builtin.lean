import Vetting.Validator.Basic

/-!
# The built-in validators

Each built-in validator can be had in two ways: by a function of its parameters, and from options.
The second reads the validator's own options, in a fixed order, applies the common ones, and
refuses what is left over.

## Main definitions

* `Builtin.catalogue`: the names of the built-in validators and how they are made from options
* `Validator.custom`, `Validator.inline`: validators made of a test or a predicate
-/

namespace Vetting

/-- Makes a validator from options. -/
abbrev Factory : Type := Options → Except ConfigError Validator

namespace Validator

/-- A validator with the given default message and nothing else set. -/
def withMessage (name message : String) (check : Check) : Validator :=
  ⟨name, .ofMessages (.single message), check⟩

/-- A validator with the given messages by slot. -/
def withMessages (name : String) (messages : List (String × String)) (check : Check) : Validator :=
  ⟨name, .ofMessages (.ofList messages), check⟩

/-- A validator made of a test; without one everything passes. -/
def custom (name message : String) (test : Option (Value → Bool)) : Validator :=
  .withMessage name message (.custom test)

/-- The common options applied to a validator that has none of its own. -/
def configure (v : Validator) (options : Options) : Except ConfigError Validator :=
  Reading.ofOptions v.name options v.configured

/-- A validator that is a predicate. -/
def inline (predicate : Value → Outcome) : Validator :=
  .withMessage "inline" Settings.baseMessage (.inline predicate)

end Validator

namespace Builtin

/-! ## By parameters -/

def required : Validator := .withMessage "required" "Cannot be empty." .required

/-- The template of `type` and `instanceOf`. -/
def mismatchTemplate : String :=
  "Expected \x7b\x7bexpected\x7d\x7d, got \x7b\x7bgot\x7d\x7d."

def type (expected : String) : Validator := .withMessage "type" mismatchTemplate (.type expected)

def instanceOf (cls : ClassRef) : Validator :=
  .withMessage "instanceOf" mismatchTemplate (.instanceOf cls)

/-- The length check with any bounds. -/
def bounded (min max : Option Nat) : Validator :=
  .withMessages "length" [
    ("invalid", "The value is invalid."),
    ("tooShortString", "Too short, should be at least \x7b\x7bmin\x7d\x7d character(s)."),
    ("tooLongString", "Too long, should be at most \x7b\x7bmax\x7d\x7d character(s)."),
    ("tooShortArray", "Too short, should contain at least \x7b\x7bmin\x7d\x7d item(s)."),
    ("tooLongArray", "Too long, should contain at most \x7b\x7bmax\x7d\x7d item(s)."),
    ("tooShortObject", "Too short, should contain at least \x7b\x7bmin\x7d\x7d key(s)."),
    ("tooLongObject", "Too long, should contain at most \x7b\x7bmax\x7d\x7d key(s).")]
    (.length min max)

/-- The length check, which needs a bound. -/
def length (min max : Option Nat) : Except ConfigError Validator :=
  match min, max with
  | none, none => .error (.missingOption "length" "min or max")
  | _, _ => .ok (bounded min max)

def number (min max : Option Double) : Validator :=
  .withMessages "number" [
    ("invalid", "Expected a number."),
    ("tooSmall", "Must be at least \x7b\x7bmin\x7d\x7d."),
    ("tooLarge", "Must be at most \x7b\x7bmax\x7d\x7d.")]
    (.number min max)

def boolean (trueValues falseValues : List Value) : Validator :=
  .withMessage "boolean" "Must be true or false." (.boolean trueValues falseValues)

/-- The lists of `boolean` unless others are given. -/
def booleanDefault : Validator := boolean [.bool true] [.bool false]

def regexp (pattern : Option Regex) : Validator :=
  .withMessages "regexp" [
    (Messages.defaultSlot, "Does not match the required pattern."),
    ("badType", "Should be a text value.")]
    (.regexp pattern)

/-- The pattern that an option spells out. -/
def compileOption [Regex.Engine] (validator option source : String) (ignoreCase : Bool) :
    Except ConfigError Regex :=
  match Regex.compile source ignoreCase with
  | .ok r => .ok r
  | .error fault => .error (.invalidOption validator option (.badPattern fault))

def regexpOfSource [Regex.Engine] (source : String) : Except ConfigError Validator :=
  (compileOption "regexp" "pattern" source false).map fun r => regexp (some r)

def range (bounds : RangeBounds) : Validator :=
  .withMessages "range" [
    ("in", "Not in the list of valid options."),
    ("between", "Must be between \x7b\x7bstart\x7d\x7d and \x7b\x7bstop\x7d\x7d.")]
    (.range bounds)

def urlWith (schemes : List String) (strict : Bool) (pattern : Regex.Pattern) : Validator :=
  .withMessage "url" "Not a valid URL." (.url schemes strict pattern)

/-- Strict URLs of the web. -/
def url : Validator := urlWith Address.webSchemes true (Address.url Address.webSchemes)

/-- The pattern of a list of schemes, if its automaton is not too large. -/
def schemesPattern [Regex.Engine] (schemes : List String) : Except ConfigError Regex.Pattern :=
  let pattern := Address.url schemes
  if Regex.Engine.fits pattern then .ok pattern
  else .error (.invalidOption "url" "schemes" (.badPattern .tooLarge))

theorem schemesPattern_of_fits [Regex.Engine] {schemes : List String}
    (h : Regex.Engine.fits (Address.url schemes) = true) :
    schemesPattern schemes = .ok (Address.url schemes) := if_pos h

theorem eq_of_schemesPattern [Regex.Engine] {schemes : List String} {pattern : Regex.Pattern}
    (h : schemesPattern schemes = .ok pattern) : pattern = Address.url schemes := by
  rw [schemesPattern] at h
  split at h
  · exact (Except.ok.inj h).symm
  · cases h

/-- The pattern of the schemes that are given.  Without any it is that of the web, which is taken as
it is. -/
def schemesPatternOrWeb [Regex.Engine] :
    Option (List String) → Except ConfigError Regex.Pattern
  | none => .ok (Address.url Address.webSchemes)
  | some schemes => schemesPattern schemes

def emailWith (pattern : Regex.Pattern) : Validator :=
  .withMessage "email" "Not a valid email address." (.email pattern)

def email : Validator := emailWith Address.email

def ip (v4 v6 : Bool) : Validator := .withMessage "ip" "Not a valid IP address." (.ip v4 v6)

def hostname : Validator := .withMessage "hostname" "Not a valid hostname." .hostname

def date : Validator := .withMessage "date" "Not a valid date." .date

def time : Validator := .withMessage "time" "Not a valid time." .time

def datetime : Validator := .withMessage "datetime" "Not a valid date / time." .datetime

/-! ## From options -/

def typeReading : Reading Validator := do
  let expected ← Reading.read "type" OptionDecoder.text
  (type (expected.getD "string")).configured

def instanceOfReading : Reading Validator := do
  match ← Reading.read "class" OptionDecoder.text with
  | none => throw (.missingOption "instanceOf" "class")
  | some name =>
    if name.isEmpty then throw (.invalidOption "instanceOf" "class" .emptyClassName)
    (instanceOf (.named name)).configured

def lengthReading : Reading Validator := do
  let min ← Reading.read "min" OptionDecoder.count
  let max ← Reading.read "max" OptionDecoder.count
  (← Reading.ofExcept (length min max)).configured

def numberReading : Reading Validator := do
  let min ← Reading.read "min" OptionDecoder.number
  let max ← Reading.read "max" OptionDecoder.number
  (number min max).configured

def booleanReading : Reading Validator := do
  let trueValues ← Reading.read "trueValues" OptionDecoder.list
  let falseValues ← Reading.read "falseValues" OptionDecoder.list
  (boolean (trueValues.getD [.bool true]) (falseValues.getD [.bool false])).configured

def regexpReading [Regex.Engine] : Reading Validator := do
  match ← Reading.read "pattern" OptionDecoder.text with
  | none => (regexp none).configured
  | some source => (← Reading.ofExcept (regexpOfSource source)).configured

/-- The bounds of a range: a list or an interval, but not both. -/
def rangeBounds (values between : Option (List Value)) : Except ConfigError RangeBounds :=
  match values, between with
  | some values, none => .ok (.oneOf values)
  | none, some [start, stop] => .ok (.between start stop)
  | none, some ends => .error (.invalidOption "range" "between" (.notPair ends.length))
  | some _, some _ => .error (.invalidOption "range" "in" .listAndInterval)
  | none, none => .error (.missingOption "range" "in or between")

def rangeReading : Reading Validator := do
  let values ← Reading.read "in" OptionDecoder.list
  let between ← Reading.read "between" OptionDecoder.list
  (range (← Reading.ofExcept (rangeBounds values between))).configured

def urlReading [Regex.Engine] : Reading Validator := do
  let schemes ← Reading.read "schemes" OptionDecoder.texts
  let pattern ← Reading.ofExcept (schemesPatternOrWeb schemes)
  let strict ← Reading.read "strict" OptionDecoder.bool
  let source ← Reading.read "pattern" OptionDecoder.text
  let pattern ← match source with
    | none => pure pattern
    | some s => Regex.pattern <$> Reading.ofExcept (compileOption "url" "pattern" s true)
  (urlWith (schemes.getD Address.webSchemes) (strict.getD true) pattern).configured

def emailReading [Regex.Engine] : Reading Validator := do
  match ← Reading.read "pattern" OptionDecoder.text with
  | none => email.configured
  | some s =>
    let r ← Reading.ofExcept (compileOption "email" "pattern" s false)
    (emailWith r.pattern).configured

def ipReading : Reading Validator := do
  let v4 ← Reading.read "v4" OptionDecoder.bool
  let v6 ← Reading.read "v6" OptionDecoder.bool
  (ip (v4.getD true) (v6.getD true)).configured

/-- The built-in validators with the options they read. -/
def readings [Regex.Engine] : List (String × Reading Validator) := [
  ("required", required.configured),
  ("type", typeReading),
  ("instanceOf", instanceOfReading),
  ("length", lengthReading),
  ("number", numberReading),
  ("boolean", booleanReading),
  ("regexp", regexpReading),
  ("range", rangeReading),
  ("url", urlReading),
  ("email", emailReading),
  ("ip", ipReading),
  ("hostname", hostname.configured),
  ("date", date.configured),
  ("time", time.configured),
  ("datetime", datetime.configured)]

/-- The built-in validators and how they are made from options. -/
def catalogue [Regex.Engine] : List (String × Factory) :=
  readings.map fun (name, reading) => (name, fun options => Reading.ofOptions name options reading)

/-- The built-in validator of a name, made from options. -/
def factory? [Regex.Engine] (name : String) : Option Factory := catalogue.lookup name

end Builtin

end Vetting
