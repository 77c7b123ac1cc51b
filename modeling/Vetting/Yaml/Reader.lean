import Vetting.Yaml.Node.Parser
import Vetting.Yaml.Node.Value
import Vetting.Yaml.Token.Lexer

/-!
# Reading YAML

A text holds one document, which is read as the JSON value that it stands for.
-/

namespace Vetting

namespace Yaml

/-- The characters that a text may be made of. -/
def isAllowed (c : Char) : Bool :=
  c = '\t' || c = '\n' || c = '\r' || (' ' ≤ c && c ≤ '~') || c = '\u0085' ||
    ('\u00a0' ≤ c && c.toNat ≤ 0xFFFD) || 0x10000 ≤ c.toNat

/-- The value of the only document of a text. -/
def read? (text : String) : Option Json :=
  let cs := text.toList
  if cs.all isAllowed then
    match Token.ofText? cs with
    | none => none
    | some tokens => (Node.ofTokens? tokens).bind Node.toJson?
  else none

end Yaml

end Vetting
