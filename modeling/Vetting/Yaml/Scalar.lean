import Vetting.Json.Basic
import Vetting.Number.Numeral

/-!
# The values of scalars

A plain scalar without a tag is a null, a boolean, an integer or a float if it is spelled like one,
in that order, and else a text.  All other scalars are texts unless a tag tells otherwise.

An integer that does not fit 64 bits is an error as long as it fits 128 bits.  Beyond them it is a
float.
-/

namespace Vetting

namespace Yaml

namespace Scalar

def isNull (s : String) : Bool := ["null", "Null", "NULL", "~"].contains s

def bool? (s : String) : Option Bool :=
  if ["true", "True", "TRUE"].contains s then some true
  else if ["false", "False", "FALSE"].contains s then some false
  else none

/-! ## Integers -/

/-- The value of a digit in any base up to 36. -/
def digit? (c : Char) : Option Nat :=
  if c.isDigit then some (c.toNat - '0'.toNat)
  else if 'a' ≤ c ∧ c ≤ 'z' then some (c.toNat - 'a'.toNat + 10)
  else if 'A' ≤ c ∧ c ≤ 'Z' then some (c.toNat - 'A'.toNat + 10)
  else none

/-- The number that digits spell behind those of `value`. -/
def appendDigits (base : Nat) : Nat → List Char → Option Nat
  | value, [] => some value
  | value, c :: cs =>
    match digit? c with
    | some d => if d < base then appendDigits base (value * base + d) cs else none
    | none => none

/-- The number that digits spell, of which there is at least one. -/
def natural? (base : Nat) (digits : List Char) : Option Nat :=
  if digits.isEmpty then none else appendDigits base 0 digits

/-- A text of digits that begins with a zero is no number, apart from zero itself. -/
def isPadded (digits : List Char) : Bool :=
  1 < digits.length && digits.head? == some '0' && digits.all Char.isDigit

/-- A magnitude in base 16, 8 or 2 with its mark, or in base 10. -/
def magnitude? : List Char → Option Nat
  | '0' :: 'x' :: digits => natural? 16 digits
  | '0' :: 'o' :: digits => natural? 8 digits
  | '0' :: 'b' :: digits => natural? 2 digits
  | digits => if isPadded digits then none else natural? 10 digits

/-- The sign of a number and what follows it. -/
def splitSign : List Char → Bool × List Char
  | '-' :: rest => (true, rest)
  | '+' :: rest => (false, rest)
  | cs => (false, cs)

/-- What a scalar is if it is spelled as an integer. -/
inductive Whole where
  | integer (i : Int)
  /-- One that fits 128 bits, but not 64. -/
  | tooWide
  deriving DecidableEq, Repr

/-- The integer of a sign and a magnitude, none beyond 128 bits. -/
def wholeOf? (negative : Bool) (n : Nat) : Option Whole :=
  let (near, far) := if negative then (Nat.pow 2 63 + 1, Nat.pow 2 127 + 1)
    else (Nat.pow 2 64, Nat.pow 2 128)
  if n < near then some (.integer (if negative then -n else n))
  else if n < far then some .tooWide
  else none

def whole? (cs : List Char) : Option Whole :=
  let (negative, digits) := splitSign cs
  (magnitude? digits).bind (wholeOf? negative)

/-! ## Floats -/

/-- The exponent behind its letter, or zero if nothing is left. -/
def exponent? : List Char → Option Int
  | [] => some 0
  | c :: cs =>
    if c = 'e' || c = 'E' then
      let (down, digits) := splitSign cs
      (natural? 10 digits).map fun n => if down then -n else n
    else none

/-- A decimal with a point or an exponent or neither. -/
def decimal? (negative : Bool) (cs : List Char) : Option Double :=
  let whole := cs.takeWhile Char.isDigit
  let rest := cs.drop whole.length
  let fraction := match rest with
    | '.' :: rest => rest.takeWhile Char.isDigit
    | _ => []
  let rest := if rest.head? = some '.' then rest.drop (1 + fraction.length) else rest
  match natural? 10 (whole ++ fraction), exponent? rest with
  | some digits, some exponent =>
    some (Double.ofNumeral negative digits (exponent - fraction.length))
  | _, _ => none

/-- The float that a scalar spells.  A decimal too large is none. -/
def float? (cs : List Char) : Option Double :=
  let (negative, digits) := splitSign cs
  let s := String.ofList digits
  if [".inf", ".Inf", ".INF"].contains s then some (.infinite negative)
  else if [".nan", ".NaN", ".NAN"].contains (String.ofList cs) then some .nan
  else (decimal? negative digits).filter Double.isFinite

/-! ## Values -/

/-- A float as JSON, which knows only finite ones. -/
def ofDouble (x : Double) : Json := if x.isFinite then .float x else .null

def ofWhole : Whole → Option Json
  | .integer i => some (.integer i)
  | .tooWide => none

/-- The value of a plain scalar without a tag. -/
def plain? (cs : List Char) : Option Json :=
  let s := String.ofList cs
  if s.isEmpty || isNull s then some .null
  else
    match bool? s, whole? cs with
    | some b, _ => some (.bool b)
    | none, some i => ofWhole i
    | none, none =>
      if isPadded (splitSign cs).2 then some (.text s)
      else some (((float? cs).map ofDouble).getD (.text s))

/-- The value of a scalar with a tag that is not local. -/
def tagged? (tag : String) (cs : List Char) : Option Json :=
  let s := String.ofList cs
  if tag = "tag:yaml.org,2002:bool" then (bool? s).map .bool
  else if tag = "tag:yaml.org,2002:int" then (whole? cs).bind ofWhole
  else if tag = "tag:yaml.org,2002:float" then (float? cs).map ofDouble
  else if tag = "tag:yaml.org,2002:null" then if isNull s then some .null else none
  else some (.text s)

end Scalar

end Yaml

end Vetting
