import Vetting.Json.Basic
import Vetting.Number.Numeral

/-!
# Reading JSON text

The reader is strict: no comments, no trailing commas, no leading zeros, no control characters or
lone surrogates in texts, nothing after the value.  Of two fields with one key the later stays.

A numeral without fraction and exponent is an integer as long as it fits 64 bits.  Any other is a
double, made of the leading digits that fit 64 bits and a decimal exponent; a double too large is
an error, one too small is zero.

Each function returns what it read and the text that follows.  The fuel is twice
the length of the whole text, which is never used up: a container opens with a character of its
own, and every step inside takes at least one more.
-/

namespace Vetting

namespace Json.Reader

def isBlank (c : Char) : Bool := c = ' ' || c = '\n' || c = '\r' || c = '\t'

def skipBlanks (cs : List Char) : List Char := cs.dropWhile isBlank

/-- The text after `word`, which must come first. -/
def expect? : List Char → List Char → Option (List Char)
  | [], cs => some cs
  | w :: word, c :: cs => if c = w then expect? word cs else none
  | _ :: _, [] => none

/-! ## Numerals -/

def digitValue (c : Char) : Nat := c.toNat - '0'.toNat

/-- Significands stay below this limit. -/
def significandLimit : Nat := Nat.pow 2 64

/-- Explicit exponents stay below this limit. -/
def exponentLimit : Nat := Nat.pow 2 31

/-- Appends digits to a significand as long as it stays below `limit`.  Returns it, the number of
digits taken, and the rest, which starts with a digit only if the limit was met. -/
def takeDigits (limit : Nat) : Nat → Nat → List Char → Nat × Nat × List Char
  | significand, taken, [] => (significand, taken, [])
  | significand, taken, c :: cs =>
    if c.isDigit then
      let next := significand * 10 + digitValue c
      if next < limit then takeDigits limit next (taken + 1) cs
      else (significand, taken, c :: cs)
    else (significand, taken, c :: cs)

def startsWithDigit : List Char → Bool
  | c :: _ => c.isDigit
  | [] => false

def signed (negative : Bool) (x : Double) : Json := .float (if negative then x.neg else x)

/-- A double from its significand and decimal exponent. -/
def scaled (negative : Bool) (significand : Nat) (exponent : Int) (rest : List Char) :
    Option (Json × List Char) :=
  (Double.ofSignificand? significand exponent).map fun x => (signed negative x, rest)

/-- The exponent after its letter.  One beyond the limit makes any number but zero too large or
zero. -/
def exponentPart (negative : Bool) (significand : Nat) (exponent : Int) (cs : List Char) :
    Option (Json × List Char) :=
  let (down, digits) := match cs with
    | '+' :: rest => (false, rest)
    | '-' :: rest => (true, rest)
    | _ => (false, cs)
  if startsWithDigit digits then
    let (explicit, _, rest) := takeDigits exponentLimit 0 0 digits
    if startsWithDigit rest then
      if significand ≠ 0 ∧ down = false then none
      else some (signed negative Double.zero, rest.dropWhile Char.isDigit)
    else
      scaled negative significand (if down then exponent - explicit else exponent + explicit) rest
  else none

/-- An exponent if one follows, else the number as it stands. -/
def maybeExponent (negative : Bool) (significand : Nat) (exponent : Int) :
    List Char → Option (Json × List Char)
  | 'e' :: rest => exponentPart negative significand exponent rest
  | 'E' :: rest => exponentPart negative significand exponent rest
  | rest => scaled negative significand exponent rest

/-- The digits after the point, of which there is at least one.  Those that do not fit the
significand are passed over. -/
def fractionPart (negative : Bool) (significand : Nat) (exponent : Int) (cs : List Char) :
    Option (Json × List Char) :=
  if startsWithDigit cs then
    let (significand, taken, rest) := takeDigits significandLimit significand 0 cs
    maybeExponent negative significand (exponent - taken) (rest.dropWhile Char.isDigit)
  else none

/-- What follows the whole digits of a number too long for an integer. -/
def longPart (negative : Bool) (significand : Nat) (exponent : Int) :
    List Char → Option (Json × List Char)
  | '.' :: rest => fractionPart negative significand exponent rest
  | rest => maybeExponent negative significand exponent rest

/-- The integer of a sign and a magnitude, a double if it is `-0` or does not fit 64 bits. -/
def ofMagnitude (negative : Bool) (magnitude : Nat) : Json :=
  if negative then
    if 0 < magnitude ∧ magnitude ≤ Nat.pow 2 63 then .integer (-(magnitude : Int))
    else signed true (Double.ofNat magnitude)
  else .integer magnitude

/-- What follows the whole digits of a number that fits 64 bits. -/
def shortPart (negative : Bool) (magnitude : Nat) : List Char → Option (Json × List Char)
  | '.' :: rest => fractionPart negative magnitude 0 rest
  | 'e' :: rest => exponentPart negative magnitude 0 rest
  | 'E' :: rest => exponentPart negative magnitude 0 rest
  | rest => some (ofMagnitude negative magnitude, rest)

/-- A number after its sign. -/
def unsigned (negative : Bool) : List Char → Option (Json × List Char)
  | [] => none
  | c :: cs =>
    if c = '0' then
      if startsWithDigit cs then none else shortPart negative 0 cs
    else if c.isDigit then
      let (significand, _, rest) := takeDigits significandLimit 0 0 (c :: cs)
      if startsWithDigit rest then
        let more := rest.takeWhile Char.isDigit
        longPart negative significand more.length (rest.dropWhile Char.isDigit)
      else shortPart negative significand rest
    else none

def number : List Char → Option (Json × List Char)
  | '-' :: rest => unsigned true rest
  | cs => unsigned false cs

/-! ## Texts -/

def hexValue? (c : Char) : Option Nat :=
  if '0' ≤ c ∧ c ≤ '9' then some (c.toNat - '0'.toNat)
  else if 'a' ≤ c ∧ c ≤ 'f' then some (c.toNat - 'a'.toNat + 10)
  else if 'A' ≤ c ∧ c ≤ 'F' then some (c.toNat - 'A'.toNat + 10)
  else none

/-- Four hexadecimal digits. -/
def codeUnit : List Char → Option (Nat × List Char)
  | a :: b :: c :: d :: rest => do
    let a ← hexValue? a
    let b ← hexValue? b
    let c ← hexValue? c
    let d ← hexValue? d
    some (((a * 16 + b) * 16 + c) * 16 + d, rest)
  | _ => none

def isHighSurrogate (unit : Nat) : Bool := 0xD800 ≤ unit && unit < 0xDC00

def isLowSurrogate (unit : Nat) : Bool := 0xDC00 ≤ unit && unit < 0xE000

/-- A character by its code units; surrogates come in pairs only. -/
def codePoint (cs : List Char) : Option (Char × List Char) := do
  let (unit, rest) ← codeUnit cs
  if isLowSurrogate unit then none
  else if isHighSurrogate unit then
    let rest ← expect? ['\\', 'u'] rest
    let (low, rest) ← codeUnit rest
    if isLowSurrogate low then
      some (Char.ofNat (0x10000 + (unit - 0xD800) * 0x400 + (low - 0xDC00)), rest)
    else none
  else some (Char.ofNat unit, rest)

/-- The character that an escape stands for, after its backslash. -/
def escape : List Char → Option (Char × List Char)
  | [] => none
  | c :: rest =>
    if c = '"' ∨ c = '\\' ∨ c = '/' then some (c, rest)
    else if c = 'b' then some ('\x08', rest)
    else if c = 'f' then some ('\x0c', rest)
    else if c = 'n' then some ('\n', rest)
    else if c = 'r' then some ('\r', rest)
    else if c = 't' then some ('\t', rest)
    else if c = 'u' then codePoint rest
    else none

/-- A text after its opening quote; `seen` holds its characters so far, the last first. -/
def text : Nat → List Char → List Char → Option (String × List Char)
  | _, _, [] => none
  | 0, _, _ => none
  | fuel + 1, seen, c :: rest =>
    if c = '"' then some (String.ofList seen.reverse, rest)
    else if c = '\\' then
      match escape rest with
      | some (e, rest) => text fuel (e :: seen) rest
      | none => none
    else if c.toNat < 0x20 then none
    else text fuel (c :: seen) rest

/-! ## Values -/

/-- A field's name and the colon after it. -/
def fieldName (fuel : Nat) (cs : List Char) : Option (String × List Char) := do
  let rest ← expect? ['"'] cs
  let (name, rest) ← text fuel [] rest
  let rest ← expect? [':'] (skipBlanks rest)
  some (name, rest)

mutual

/-- A value after any blanks; `depth` is the number of containers that may still open. -/
def value : Nat → Nat → List Char → Option (Json × List Char)
  | 0, _, _ => none
  | fuel + 1, depth, cs =>
    match skipBlanks cs with
    | [] => none
    | c :: rest =>
      if c = '"' then (text fuel [] rest).map fun (s, rest) => (.text s, rest)
      else if c = '[' then
        if depth = 0 then none
        else match skipBlanks rest with
          | ']' :: rest => some (.array [], rest)
          | _ => items fuel (depth - 1) [] rest
      else if c = '\x7b' then
        if depth = 0 then none
        else match skipBlanks rest with
          | '\x7d' :: rest => some (.object [], rest)
          | _ => fields fuel (depth - 1) [] rest
      else if c = 'n' then (expect? ['u', 'l', 'l'] rest).map fun rest => (.null, rest)
      else if c = 't' then (expect? ['r', 'u', 'e'] rest).map fun rest => (.bool true, rest)
      else if c = 'f' then (expect? ['a', 'l', 's', 'e'] rest).map fun rest => (.bool false, rest)
      else number (c :: rest)

/-- The items of an array up to its bracket; `seen` holds those before, the last first. -/
def items : Nat → Nat → List Json → List Char → Option (Json × List Char)
  | 0, _, _, _ => none
  | fuel + 1, depth, seen, cs =>
    match value fuel depth cs with
    | none => none
    | some (item, rest) =>
      match skipBlanks rest with
      | ',' :: rest => items fuel depth (item :: seen) rest
      | ']' :: rest => some (.array (item :: seen).reverse, rest)
      | _ => none

/-- The fields of an object up to its bracket; `seen` holds those before, the last first. -/
def fields : Nat → Nat → List (String × Json) → List Char → Option (Json × List Char)
  | 0, _, _, _ => none
  | fuel + 1, depth, seen, cs =>
    match fieldName fuel (skipBlanks cs) with
    | none => none
    | some (name, rest) =>
      match value fuel depth rest with
      | none => none
      | some (item, rest) =>
        match skipBlanks rest with
        | ',' :: rest => fields fuel depth ((name, item) :: seen) rest
        | '\x7d' :: rest => some (ofFields ((name, item) :: seen).reverse, rest)
        | _ => none

end

end Json.Reader

namespace Json

/-- The value that a whole text stands for, when its containers nest at most `depth` deep. -/
def readNested (depth : Nat) (s : String) : Option Json :=
  let cs := s.toList
  match Reader.value (2 * cs.length + 2) depth cs with
  | some (j, rest) => if (Reader.skipBlanks rest).isEmpty then some j else none
  | none => none

/-- Containers may nest this deep. -/
def nestingLimit : Nat := 127

/-- The value that a whole text stands for. -/
def read? (s : String) : Option Json := readNested nestingLimit s

end Json

end Vetting
