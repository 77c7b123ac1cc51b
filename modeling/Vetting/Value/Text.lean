import Vetting.Value.Basic
import Vetting.Number.Text

/-!
# The text of a value

How a value stands in a message, and what the pattern checks look at.  An array is its items joined
by commas with its brackets left out, so nested arrays flatten; null and undefined show only
outside an array.
-/

namespace Vetting

namespace Value

mutual

/-- The text that a value is coerced to. -/
def display : Value → String
  | .undefined => "undefined"
  | .null => "null"
  | .bool b => if b then "true" else "false"
  | .number x => x.display
  | .text s => s
  | .array items => ",".intercalate (displayItems items)
  | .object .. => "[object Object]"
  | .date t => t.text

/-- The text of each item of an array, which is empty for null and undefined. -/
def displayItems : List Value → List String
  | [] => []
  | .undefined :: rest => "" :: displayItems rest
  | .null :: rest => "" :: displayItems rest
  | item :: rest => display item :: displayItems rest

end

end Value

end Vetting
