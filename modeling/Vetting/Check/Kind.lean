import Vetting.Value.Basic

/-!
# Kinds and classes

What the `type` and `instanceOf` checks ask about a value.
-/

namespace Vetting

/-- Whether a value is of a kind.  Null is of the kind `null` as well as of the kind `object`. -/
def Value.isOfKind (v : Value) (kind : String) : Bool :=
  match v with
  | .null => kind == "null" || kind == "object"
  | other => other.typeTag == kind

/-- How `instanceOf` says what it got: the constructor, or the kind where there is none. -/
def Value.kindName : Value → String
  | .null => "null"
  | other => other.constructorName?.getD other.typeTag

/-- A class to be an instance of. -/
inductive ClassRef where
  /-- Any class of this name, whose own constructor has to be used. -/
  | named (name : String)
  /-- A certain class or one that inherits from it. -/
  | exact (cls : Class)
  deriving DecidableEq, Repr

namespace ClassRef

def name : ClassRef → String
  | .named n => n
  | .exact cls => cls.name

def admits : ClassRef → Value → Bool
  | .named n, v => v.constructorName? == some n
  | .exact cls, .object (.instanceOf c) _ => c.isA cls
  | .exact _, _ => false

end ClassRef

end Vetting
