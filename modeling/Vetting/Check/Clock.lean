import Vetting.Regex.Unicode.Word

/-!
# Dates and times as text

A date is `YYYY-MM-DD` and a time `HH:MM:SS`, in ASCII digits.  Months run up to 12, days up to 31
in every month; zeros pass.

A date and a time may be joined directly or by one blank, `T` or `|`.  Behind them may stand any
one character but a line feed with one to three digits, and then a `Z`.

Every part has a fixed width or a first character that no digit can be, so reading from left to
right never has a choice.
-/

namespace Vetting

namespace Clock

/-- The number of the next `width` digits, and the text after them. -/
def takeDigits : Nat → Nat → List Char → Option (Nat × List Char)
  | 0, value, cs => some (value, cs)
  | _ + 1, _, [] => none
  | width + 1, value, c :: cs =>
    if c.isDigit then takeDigits width (value * 10 + (c.toNat - '0'.toNat)) cs else none

/-- The text after `mark`, which must come next. -/
def takeMark (mark : Char) : List Char → Option (List Char)
  | [] => none
  | c :: cs => if c = mark then some cs else none

/-- The text after a date. -/
def takeDate (cs : List Char) : Option (List Char) := do
  let (_, cs) ← takeDigits 4 0 cs
  let cs ← takeMark '-' cs
  let (month, cs) ← takeDigits 2 0 cs
  let cs ← takeMark '-' cs
  let (day, cs) ← takeDigits 2 0 cs
  if month < 13 ∧ day < 32 then some cs else none

/-- The text after a time. -/
def takeTime (cs : List Char) : Option (List Char) := do
  let (hour, cs) ← takeDigits 2 0 cs
  let cs ← takeMark ':' cs
  let (minute, cs) ← takeDigits 2 0 cs
  let cs ← takeMark ':' cs
  let (second, cs) ← takeDigits 2 0 cs
  if hour < 24 ∧ minute < 60 ∧ second < 60 then some cs else none

/-- Whether a character may stand between a date and a time. -/
def isSeparator (c : Char) : Bool := Regex.Unicode.blank.contains c || c = '|' || c = 'T'

/-- The text after a separator, if there is one. -/
def skipSeparator : List Char → List Char
  | [] => []
  | c :: cs => if isSeparator c then cs else c :: cs

/-- Whether a text may follow the time: nothing or a fraction, and then nothing or `Z`. -/
def isEnding : List Char → Bool
  | [] => true
  | c :: cs =>
    let digits := cs.takeWhile Char.isDigit
    let rest := cs.dropWhile Char.isDigit
    (c = 'Z' && cs.isEmpty) ||
      (c != '\n' && 1 ≤ digits.length && digits.length ≤ 3 && (rest = [] || rest = ['Z']))

def isDate (s : String) : Bool := takeDate s.toList == some []

def isTime (s : String) : Bool := takeTime s.toList == some []

def isDateTime (s : String) : Bool :=
  match takeDate s.toList with
  | none => false
  | some rest =>
    match takeTime (skipSeparator rest) with
    | none => false
    | some rest => isEnding rest

end Clock

end Vetting
