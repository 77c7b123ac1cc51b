import Vetting.Options
import Vetting.Message

/-!
# Settings

What all validators have in common: their message templates, and whether empty values pass
unchecked.  `Settings.configure` reads both from options, in a fixed order, and keeps what it has
applied when it meets an error.
-/

namespace Vetting

structure Settings where
  messages : Messages
  /-- Whether empty values pass without being checked. -/
  allowEmpty : Bool

namespace Settings

/-- The message of a validator that has none of its own. -/
def baseMessage : String := "Invalid value."

def ofMessages (messages : Messages) : Settings := ⟨messages, false⟩

instance : Inhabited Settings := ⟨ofMessages (.single baseMessage)⟩

/-- Overrides templates slot by slot up to the first that is not a text. -/
def override (validator : String) :
    List (String × Value) → Messages → Except ConfigError Unit × Messages
  | [], messages => (.ok (), messages)
  | (slot, .text template) :: rest, messages => override validator rest (messages.set slot template)
  | (slot, _) :: _, messages =>
    (.error (.invalidOption validator "messages" (.templateNotText slot)), messages)

/-- Applies `allowEmpty`, then the templates of `messages` by ascending slot, then `message` to the
default slot.  The settings and the reader are those reached when the first error occurs. -/
def configure (s : Settings) (reader : OptionReader) :
    Except ConfigError Unit × Settings × OptionReader :=
  match reader.read "allowEmpty" OptionDecoder.bool with
  | (.error e, reader) => (.error e, s, reader)
  | (.ok allowEmpty, reader) =>
    let s := { s with allowEmpty := allowEmpty.getD s.allowEmpty }
    match reader.read "messages" OptionDecoder.object with
    | (.error e, reader) => (.error e, s, reader)
    | (.ok overrides, reader) =>
      let templates := (overrides.map fun o => o.fields.entries).getD []
      match override reader.validator templates s.messages with
      | (.error e, messages) => (.error e, { s with messages }, reader)
      | (.ok (), messages) =>
        let s := { s with messages }
        match reader.read "message" OptionDecoder.text with
        | (.error e, reader) => (.error e, s, reader)
        | (.ok none, reader) => (.ok (), s, reader)
        | (.ok (some template), reader) =>
          (.ok (), { s with messages := s.messages.set Messages.defaultSlot template }, reader)

/-- The settings with the common options applied. -/
def configured (s : Settings) : Reading Settings := fun reader =>
  match s.configure reader with
  | (.error e, _, reader) => (.error e, reader)
  | (.ok (), s, reader) => (.ok s, reader)

end Settings

/-- The verdict on a value. -/
inductive Outcome where
  | valid
  | invalid (message : String)
  deriving DecidableEq, Repr

namespace Outcome

def isValid : Outcome → Bool
  | .valid => true
  | .invalid _ => false

/-- The message of a failure. -/
def error? : Outcome → Option String
  | .valid => none
  | .invalid message => some message

def ofExcept : Except String Unit → Outcome
  | .ok () => .valid
  | .error message => .invalid message

def toExcept : Outcome → Except String Unit
  | .valid => .ok ()
  | .invalid message => .error message

end Outcome

end Vetting
