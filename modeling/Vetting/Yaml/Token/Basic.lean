/-!
# Tokens of YAML

The tokens tell where blocks begin and end, so that the nesting of a document no longer depends on
columns.
-/

namespace Vetting

namespace Yaml

inductive Token where
  | versionDirective (major minor : Nat)
  | tagDirective (handle tagPrefix : List Char)
  | documentStart
  | documentEnd
  | blockSequenceStart
  | blockMappingStart
  | blockEnd
  | flowSequenceStart
  | flowSequenceEnd
  | flowMappingStart
  | flowMappingEnd
  | blockEntry
  | flowEntry
  | key
  | value
  | alias (name : List Char)
  | anchor (name : List Char)
  | tag (handle suffix : List Char)
  /-- A scalar, and whether it stood without quotes and block indicators. -/
  | scalar (plain : Bool) (text : List Char)
  deriving DecidableEq, Repr

end Yaml

end Vetting
