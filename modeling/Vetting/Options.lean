import Vetting.ConfigError
import Vetting.Value.Json

/-!
# Options and their reader

Options are the untyped configuration of a validator: names mapped to values.  A null or undefined
entry counts as absent.

An `OptionReader` hands out typed options and notes every name that is asked for, so that
`OptionReader.finish` can refuse a name that nobody asked for.  What a read yields depends on the
options, the name and the decoder alone, never on earlier reads.

## Main definitions

* `OptionDecoder`: what the value of an option is accepted as
* `OptionReader.read`: one read, which yields the answer and the reader that remembers it
* `Reading`: a run of reads that stops at the first error
-/

namespace Vetting

/-- The untyped configuration of a validator. -/
abbrev Options : Type := Dict Value

namespace Options

/-- The fields of an object, whatever its prototype. -/
def ofObject (o : Object) : Options := o.fields

/-- The options that a JSON object describes. -/
def ofJson (j : Json) : Except ConfigError Options :=
  match (Value.ofJson j).asObject? with
  | some o => .ok (ofObject o)
  | none => .error (.invalidRule (.options j))

/-- The value under a name, unless it is null or undefined. -/
def given? (options : Options) (key : String) : Option Value :=
  (options.find? key).filter fun v => !v.isNullish

end Options

/-- How the value of an option is read: what it is taken for, or why it is refused. -/
abbrev OptionDecoder (α : Type) : Type := Value → Except OptionFault α

namespace OptionDecoder

/-- Counts are kept up to this limit; a larger one counts as the limit. -/
def countLimit : Nat := Nat.pow 2 64 - 1

def value : OptionDecoder Value := .ok

def bool : OptionDecoder Bool
  | .bool b => .ok b
  | other => .error (.mistyped .bool other)

def text : OptionDecoder String
  | .text s => .ok s
  | other => .error (.mistyped .text other)

/-- Any number except NaN. -/
def number : OptionDecoder Double
  | .number x => if x.isNaN then .error (.mistyped .number (.number x)) else .ok x
  | other => .error (.mistyped .number other)

/-- A whole non-negative number. -/
def count : OptionDecoder Nat
  | .number x =>
    match x.toNat? with
    | some n => .ok (min n countLimit)
    | none => .error (.mistyped .count (.number x))
  | other => .error (.mistyped .count other)

def list : OptionDecoder (List Value)
  | .array items => .ok items
  | other => .error (.mistyped .list other)

/-- The items of an array of texts; the first that is none is refused. -/
def textItems : List Value → Except OptionFault (List String)
  | [] => .ok []
  | .text s :: rest => (textItems rest).map (s :: ·)
  | other :: _ => .error (.itemNotText other)

def texts : OptionDecoder (List String)
  | .array items => textItems items
  | other => .error (.mistyped .list other)

def object : OptionDecoder Object
  | .object prototype fields => .ok ⟨prototype, .ofList fields⟩
  | other => .error (.mistyped .object other)

end OptionDecoder

/-- Options being read on behalf of a validator. -/
structure OptionReader where
  validator : String
  options : Options
  /-- The names asked for. -/
  seen : List String

namespace OptionReader

def ofOptions (validator : String) (options : Options) : OptionReader := ⟨validator, options, []⟩

/-- What a read yields: nothing for an absent option, an error for a refused one. -/
def answer {α : Type} (r : OptionReader) (key : String) (decode : OptionDecoder α) :
    Except ConfigError (Option α) :=
  match r.options.given? key with
  | none => .ok none
  | some v =>
    match decode v with
    | .ok a => .ok (some a)
    | .error fault => .error (.invalidOption r.validator key fault)

/-- One read.  The name is noted whatever comes of it. -/
def read {α : Type} (r : OptionReader) (key : String) (decode : OptionDecoder α) :
    Except ConfigError (Option α) × OptionReader :=
  (r.answer key decode, { r with seen := key :: r.seen })

/-- Refuses the least name that was never asked for. -/
def finish (r : OptionReader) : Except ConfigError Unit :=
  match r.options.keys.find? fun key => !r.seen.contains key with
  | some key => .error (.unknownOption r.validator key)
  | none => .ok ()

end OptionReader

/-- A run of reads, which ends at the first error. -/
abbrev Reading (α : Type) : Type := ExceptT ConfigError (StateM OptionReader) α

namespace Reading

variable {α : Type}

/-- The option of the given name. -/
def read (key : String) (decode : OptionDecoder α) : Reading (Option α) :=
  fun reader => reader.read key decode

/-- A step that reads no option. -/
def ofExcept (result : Except ConfigError α) : Reading α := fun reader => (result, reader)

/-- Runs the reads of a validator and then refuses options it did not ask for. -/
def ofOptions (validator : String) (options : Options) (reading : Reading α) :
    Except ConfigError α :=
  match reading.run (.ofOptions validator options) with
  | (.error e, _) => .error e
  | (.ok a, reader) => reader.finish.map fun _ => a

end Reading

end Vetting
