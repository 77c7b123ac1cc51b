import Vetting.Validator.Builtin

/-!
# Registries

A registry holds the factories of validators by name.  A definition replaces the one before it
under the same name.
-/

namespace Vetting

/-- Factories by name. -/
structure Registry where
  factories : Dict Factory

namespace Registry

def empty : Registry := ⟨.empty⟩

/-- The registry of the built-in validators. -/
def builtins [Regex.Engine] : Registry := ⟨.ofList Builtin.catalogue⟩

def define (r : Registry) (name : String) (factory : Factory) : Registry :=
  ⟨r.factories.insert name factory⟩

/-- Defines a validator by its message and its test; it takes the common options. -/
def defineCustom (r : Registry) (name message : String) (test : Value → Bool) : Registry :=
  r.define name (Validator.custom name message (some test)).configure

/-- The validator of a name with options. -/
def create (r : Registry) (name : String) (options : Options) : Except SetupError Validator :=
  match r.factories.find? name with
  | none => .error (.notFound name)
  | some factory => (factory options).mapError .config

def contains (r : Registry) (name : String) : Bool := r.factories.contains name

/-- The names, in ascending order. -/
def names (r : Registry) : List String := r.factories.keys

def size (r : Registry) : Nat := r.factories.size

def isEmpty (r : Registry) : Bool := r.factories.isEmpty

end Registry

end Vetting
