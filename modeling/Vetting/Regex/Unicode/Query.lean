import Vetting.Regex.Syntax.Basic
import Vetting.Regex.Unicode.Age
import Vetting.Regex.Unicode.Boundary
import Vetting.Regex.Unicode.Category
import Vetting.Regex.Unicode.Property
import Vetting.Regex.Unicode.ScriptExtension

/-!
# Asking for a class of characters

Names are compared without regard to case, blanks, hyphens, underscores and a leading `is`.  A name
alone is looked for among the properties, the categories and the scripts, in this order, except for
three abbreviations that mean categories although properties share them.
-/

namespace Vetting

namespace Regex

namespace Unicode

/-- The form in which names are compared.  `isc` is a name of its own and not `c` after `is`. -/
def normalize (name : String) : String :=
  let cs := name.toList
  let (stripped, rest) := match cs with
    | i :: s :: rest => if i.toLower = 'i' ∧ s.toLower = 's' then (true, rest) else (false, cs)
    | _ => (false, cs)
  let kept := rest.filter fun c => c.toNat < 0x80 && c != ' ' && c != '_' && c != '-'
  let text := String.ofList (kept.map Char.toLower)
  if stripped && text = "c" then "isc" else text

/-- The set of a normalised name. -/
def named? (name : String) : Option CharSet :=
  let property := if ["cf", "sc", "lc"].contains name then none else property? name
  property.orElse fun _ => (category? name).orElse fun _ => script? name

/-- The characters for which a property has a value, both by their normalised names. -/
def valued? (property value : String) : Option CharSet :=
  match property with
  | "gc" | "generalcategory" => category? value
  | "sc" | "script" => script? value
  | "scx" | "scriptextensions" => scriptExtension? value
  | "age" => age? value
  | "gcb" | "graphemeclusterbreak" => find? graphemeClasses value
  | "wb" | "wordbreak" => find? wordClasses value
  | "sb" | "sentencebreak" => find? sentenceClasses value
  | _ => none

end Unicode

/-- The characters asked for, none if there is no such class. -/
def UnicodeQuery.set? : UnicodeQuery → Option CharSet
  | .name n => Unicode.named? (Unicode.normalize n)
  | .property p value => Unicode.valued? (Unicode.normalize p) (Unicode.normalize value)

end Regex

end Vetting
