import Vetting.Json.Writer
import Vetting.Value.Text
import Vetting.Regex.Fault

/-!
# Configuration errors

What can be wrong with the options of a validator, a rule, a field descriptor or a schema.  A value
that fails a rule is no error; these arise only while validators are being set up.

An error is kept as its cause.  `ConfigError.message` puts it into words, and takes the words for a
bad pattern as an argument.
-/

namespace Vetting

/-- What an option is read as. -/
inductive OptionKind where
  | bool
  | text
  | number
  | count
  | list
  | object
  deriving DecidableEq, Repr

/-- Why the value of an option is refused. -/
inductive OptionFault where
  | mistyped (wanted : OptionKind) (got : Value)
  /-- A list of texts holds something else. -/
  | itemNotText (got : Value)
  /-- The template for a slot is not a text. -/
  | templateNotText (slot : String)
  | emptyClassName
  /-- An interval has this many ends instead of two. -/
  | notPair (size : Nat)
  /-- Both a list and an interval are given. -/
  | listAndInterval
  | badPattern (fault : Regex.Fault)

/-- Why a rule is refused. -/
inductive RuleFault where
  /-- Neither a name, a list nor a map. -/
  | shape (got : Json)
  /-- The options are not an object. -/
  | options (got : Json)
  /-- The second element of a list rule is not an object. -/
  | listOptions (name : String) (got : Value)
  /-- A list rule has more than a name and options. -/
  | listSize (name : String) (size : Nat)

inductive ConfigError where
  | missingOption (validator option : String)
  | invalidOption (validator option : String) (fault : OptionFault)
  | unknownOption (validator option : String)
  | missingName
  | invalidRule (fault : RuleFault)
  | invalidDescriptor (field : String) (got : Json)
  | invalidSchema (got : Json)

namespace OptionFault

/-- Numbers are quoted in full, everything else by its kind. -/
def mistypedMessage (got : Value) : OptionKind → String
  | .bool => "expected a boolean, got " ++ got.typeTag
  | .text => "expected a string, got " ++ got.typeTag
  | .number => "expected a number, got " ++ got.display
  | .count => "expected a non-negative integer, got " ++ got.display
  | .list => "expected an array, got " ++ got.typeTag
  | .object => "expected an object, got " ++ got.typeTag

def message (patternMessage : Regex.Fault → String) : OptionFault → String
  | .mistyped wanted got => mistypedMessage got wanted
  | .itemNotText got => "expected only strings, found " ++ got.typeTag
  | .templateNotText slot => "message `" ++ slot ++ "` must be a string"
  | .emptyClassName => "class name must not be empty"
  | .notPair size => "expected [start, stop], got " ++ toString size ++ " element(s)"
  | .listAndInterval => "`in` and `between` are mutually exclusive"
  | .badPattern fault => patternMessage fault

end OptionFault

def RuleFault.message : RuleFault → String
  | .shape got => "expected a name, list or map, got " ++ got.compact
  | .options got => "options must be an object, got " ++ got.compact
  | .listOptions name got => "options for `" ++ name ++ "` must be an object, got " ++ got.typeTag
  | .listSize name size =>
    "`" ++ name ++ "` rule has " ++ toString size ++ " elements, expected at most 2"

def ConfigError.message (patternMessage : Regex.Fault → String) : ConfigError → String
  | .missingOption validator option =>
    validator ++ ": missing required option `" ++ option ++ "`"
  | .invalidOption validator option fault =>
    validator ++ ": invalid option `" ++ option ++ "`: " ++ fault.message patternMessage
  | .unknownOption validator option => validator ++ ": unknown option `" ++ option ++ "`"
  | .missingName => "validator name must be specified"
  | .invalidRule fault => "invalid rule: " ++ fault.message
  | .invalidDescriptor field got =>
    "invalid descriptor for field `" ++ field ++ "`: expected an object, got " ++ got.compact
  | .invalidSchema got => "schema must be an object, got " ++ got.compact

/-- Why a validator cannot be had from a registry. -/
inductive SetupError where
  | notFound (name : String)
  | config (cause : ConfigError)

def SetupError.message (patternMessage : Regex.Fault → String) : SetupError → String
  | .notFound name => "validator not found: " ++ name
  | .config cause => "configuration error: " ++ cause.message patternMessage

end Vetting
