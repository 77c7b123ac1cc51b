import Vetting.Dict
import Vetting.Number.Double
import Vetting.Calendar

/-!
# Values

The data that validators look at.  It is richer than JSON: an absent value differs from a null, a
number may be NaN, an object may be an instance of a class or have no prototype at all, and a date
is a value of its own.

A `Value` stores the fields of an object as bare entries; `Object` is the same thing as a
dictionary, and the two are passed between by `Value.ofObject` and `Value.asObject?`.

## Main definitions

* `Class.isA`: inheritance, by the chain of names
* `Value.isEmpty`: what the `allowEmpty` setting lets pass
* `Value.get`: the field of an object, undefined where there is none
-/

namespace Vetting

/-- A class: its own name and the names of its ancestors, the nearest first. -/
structure Class where
  name : String
  ancestors : List String
  deriving DecidableEq, Repr

namespace Class

/-- The names from the class to its root. -/
def chain (c : Class) : List String := c.name :: c.ancestors

/-- The class that the names from a class to its root describe. -/
def ofChain? : List String → Option Class
  | [] => none
  | name :: ancestors => some ⟨name, ancestors⟩

def parent? (c : Class) : Option Class := ofChain? c.ancestors

/-- Whether walking up from the chain `names` meets the chain `root`. -/
def descends (root : List String) : List String → Bool
  | [] => false
  | name :: ancestors => name :: ancestors == root || descends root ancestors

/-- Whether a class is another or inherits from it. -/
def isA (c other : Class) : Bool := descends other.chain c.chain

end Class

/-- What an object descends from. -/
inductive Prototype where
  /-- An ordinary data object. -/
  | plain
  /-- No prototype, hence no constructor. -/
  | bare
  | instanceOf (cls : Class)
  deriving DecidableEq, Repr

namespace Prototype

def constructorName? : Prototype → Option String
  | .plain => some "Object"
  | .bare => none
  | .instanceOf cls => some cls.name

def isInstance : Prototype → Bool
  | .instanceOf _ => true
  | _ => false

end Prototype

/-- A dynamically typed value. -/
inductive Value where
  | undefined
  | null
  | bool (b : Bool)
  | number (x : Double)
  | text (s : String)
  | array (items : List Value)
  | object (prototype : Prototype) (fields : List (String × Value))
  | date (t : Instant)
  deriving Inhabited

/-- An object: its prototype and its own fields in key order. -/
structure Object where
  prototype : Prototype
  fields : Dict Value

namespace Object

/-- An object without fields. -/
def ofPrototype (prototype : Prototype) : Object := ⟨prototype, .empty⟩

/-- A plain object; of two fields with one key the later stays. -/
def ofFields (fields : List (String × Value)) : Object := ⟨.plain, .ofList fields⟩

def find? (o : Object) (key : String) : Option Value := o.fields.find? key

def size (o : Object) : Nat := o.fields.size

def insert (o : Object) (key : String) (value : Value) : Object :=
  { o with fields := o.fields.insert key value }

@[simp] theorem find?_insert (o : Object) (key other : String) (value : Value) :
    (o.insert key value).find? other = if other = key then some value else o.find? other :=
  Dict.find?_insert o.fields key other value

def erase (o : Object) (key : String) : Object := { o with fields := o.fields.erase key }

end Object

namespace Value

def ofObject (o : Object) : Value := .object o.prototype o.fields.entries

def asObject? : Value → Option Object
  | .object prototype fields => some ⟨prototype, .ofList fields⟩
  | _ => none

def asText? : Value → Option String
  | .text s => some s
  | _ => none

def asNumber? : Value → Option Double
  | .number x => some x
  | _ => none

def asBool? : Value → Option Bool
  | .bool b => some b
  | _ => none

def asArray? : Value → Option (List Value)
  | .array items => some items
  | _ => none

/-- The kind of a value.  Null, arrays and dates are objects. -/
def typeTag : Value → String
  | .undefined => "undefined"
  | .bool _ => "boolean"
  | .number _ => "number"
  | .text _ => "string"
  | .null | .array _ | .object .. | .date _ => "object"

/-- Whether a value is a point in time. -/
def isDate : Value → Bool
  | .date _ => true
  | _ => false

/-- Undefined or null. -/
def isNullish : Value → Bool
  | .undefined | .null => true
  | _ => false

@[simp] theorem isNullish_bool (b : Bool) : (bool b).isNullish = false := by
  simp [isNullish]

@[simp] theorem isNullish_number (x : Double) : (number x).isNullish = false := by
  simp [isNullish]

@[simp] theorem isNullish_text (s : String) : (text s).isNullish = false := by
  simp [isNullish]

@[simp] theorem isNullish_array (items : List Value) : (array items).isNullish = false := by
  simp [isNullish]

@[simp] theorem isNullish_ofObject (o : Object) : (ofObject o).isNullish = false := by
  simp [ofObject, isNullish]

/-- Undefined, null, the empty text, the empty array, and an object without fields that is not an
instance of a class. -/
def isEmpty : Value → Bool
  | .undefined | .null => true
  | .text s => s.isEmpty
  | .array items => items.isEmpty
  | .object prototype fields => fields.isEmpty && !prototype.isInstance
  | .bool _ | .number _ | .date _ => false

/-- The field under `key`; undefined if there is none or the value is no object. -/
def get (v : Value) (key : String) : Value :=
  match v.asObject? with
  | some o => (o.find? key).getD .undefined
  | none => .undefined

def constructorName? : Value → Option String
  | .object prototype _ => prototype.constructorName?
  | .array _ => some "Array"
  | .date _ => some "Date"
  | _ => none

end Value

end Vetting
