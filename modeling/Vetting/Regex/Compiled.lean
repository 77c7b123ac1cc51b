import Vetting.Regex.Search
import Vetting.Regex.Syntax.Meaning
import Vetting.Regex.Syntax.Parser

/-!
# Compiled patterns

A `Regex` is a pattern together with the text it was written as.  Before a pattern is used, an
engine builds an automaton from it, and it refuses a pattern whose automaton is larger than it
allows.  How large automata get and how large they may be is for the engine to say: an `Engine` is
its verdict and nothing else, and no law is asked of it.  What is proved about patterns and
validators holds for every engine.

## Main definitions

* `Regex.parse`: the pattern that a text spells out
* `Regex.compile`: the same, if the engine takes it
-/

namespace Vetting

/-- A pattern and the text it was written as. -/
structure Regex where
  source : String
  pattern : Regex.Pattern

namespace Regex

/-- The engine that patterns are compiled for. -/
class Engine where
  /-- Whether the automaton of a pattern stays within the size limit of the engine. -/
  fits : Pattern → Bool

/-- The pattern that a text spells out. -/
def parse (source : String) (ignoreCase : Bool) : Except Fault Regex := do
  let tree ← Syntax.read source
  let (pattern, _) ← tree.meaning (.initial ignoreCase)
  return ⟨source, pattern⟩

/-- The pattern that a text spells out, if its automaton is not too large. -/
def compile [Engine] (source : String) (ignoreCase : Bool) : Except Fault Regex := do
  let r ← parse source ignoreCase
  if Engine.fits r.pattern then return r else throw .tooLarge

def isMatch (r : Regex) (text : String) : Bool := r.pattern.isMatch text

end Regex

end Vetting
