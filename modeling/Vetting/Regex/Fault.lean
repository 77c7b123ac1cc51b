/-!
# What is wrong with a pattern
-/

namespace Vetting

namespace Regex

/-- Why a pattern is refused. -/
inductive Fault where
  /-- The pattern is not well formed. -/
  | malformed
  /-- A group or class is nested too deep. -/
  | nestedTooDeep
  /-- The pattern may match inside a character. -/
  | splitsCharacters
  /-- The automaton of the pattern is larger than the engine allows. -/
  | tooLarge
  deriving DecidableEq, Repr

def Fault.message : Fault → String
  | .malformed => "the pattern is not well formed"
  | .nestedTooDeep => "the pattern is nested too deep"
  | .splitsCharacters => "the pattern can match inside a character"
  | .tooLarge => "the compiled pattern exceeds the size limit"

end Regex

end Vetting
