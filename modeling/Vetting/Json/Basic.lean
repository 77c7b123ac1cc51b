import Vetting.Dict
import Vetting.Number.Double

/-!
# JSON trees

Integers between −2⁶³ and 2⁶⁴ − 1 are kept apart from all other numbers, because they are written
in full where the others are written as doubles.
-/

namespace Vetting

/-- A JSON value.  The fields of an object stand in key order, without duplicates, as
`Json.ofFields` puts them. -/
inductive Json where
  | null
  | bool (b : Bool)
  | integer (i : Int)
  | float (x : Double)
  | text (s : String)
  | array (items : List Json)
  | object (fields : List (String × Json))
  deriving Inhabited

namespace Json

/-- The object of a list of pairs; of two pairs with one key the later stays. -/
def ofFields (fields : List (String × Json)) : Json := .object (Dict.ofList fields).entries

def asObject? : Json → Option (Dict Json)
  | .object fields => some (.ofList fields)
  | _ => none

def asArray? : Json → Option (List Json)
  | .array items => some items
  | _ => none

def asText? : Json → Option String
  | .text s => some s
  | _ => none

def asBool? : Json → Option Bool
  | .bool b => some b
  | _ => none

end Json

end Vetting
