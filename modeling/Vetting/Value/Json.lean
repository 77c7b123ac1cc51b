import Vetting.Value.Basic
import Vetting.Json.Basic

/-!
# JSON as values

Every JSON tree is a value: objects become plain objects, and every number becomes the nearest
double.
-/

namespace Vetting

namespace Value

mutual

def ofJson : Json → Value
  | .null => .null
  | .bool b => .bool b
  | .integer i => .number (.ofInt i)
  | .float x => .number x
  | .text s => .text s
  | .array items => .array (ofJsonItems items)
  | .object fields => .object .plain (ofJsonFields fields)

def ofJsonItems : List Json → List Value
  | [] => []
  | item :: rest => ofJson item :: ofJsonItems rest

def ofJsonFields : List (String × Json) → List (String × Value)
  | [] => []
  | (key, item) :: rest => (key, ofJson item) :: ofJsonFields rest

end

end Value

end Vetting
