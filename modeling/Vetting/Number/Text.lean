import Vetting.Number.Shortest

/-!
# The text of a number

Two layouts are in use.  `Layout.plain` is how a value shows itself to a reader: positional
whatever the magnitude, and a whole number without a point.  `Layout.json` is how a number stands
in quoted JSON: positional near one, with an exponent elsewhere, and always recognisable as a
number with a fraction.
-/

namespace Vetting

/-- How the shortest decimal of a number is set out. -/
structure Layout where
  /-- Which decimal is taken when two are equally near. -/
  tie : Tie
  /-- Whether a leading digit with this exponent is written positionally. -/
  positional : Int → Bool
  /-- Whether a whole number is written with `.0`. -/
  pointZero : Bool
  /-- Whether negative zero keeps its sign. -/
  signedZero : Bool

namespace Layout

/-- Positional at every magnitude; `-0` is `0`. -/
def plain : Layout where
  tie := .up
  positional _ := true
  pointZero := false
  signedZero := false

/-- Positional from 10⁻⁵ up to 10¹⁶. -/
def json : Layout where
  tie := .toEven
  positional leading := -5 ≤ leading && leading < 16
  pointZero := true
  signedZero := true

/-- Digits with the point at its place. -/
def positionalText (layout : Layout) (d : Decimal) : String :=
  let digits := Nat.toDigits 10 d.digits
  let leading := (digits.length : Int) - 1 + d.exponent
  if 0 ≤ d.exponent then
    String.ofList (digits ++ List.replicate d.exponent.toNat '0') ++
      (if layout.pointZero then ".0" else "")
  else if 0 ≤ leading then
    let whole := (leading + 1).toNat
    String.ofList (digits.take whole) ++ "." ++ String.ofList (digits.drop whole)
  else
    "0." ++ String.ofList (List.replicate (-leading - 1).toNat '0' ++ digits)

/-- One digit before the point, and the exponent with its sign. -/
def exponentText (d : Decimal) : String :=
  let digits := Nat.toDigits 10 d.digits
  let leading := (digits.length : Int) - 1 + d.exponent
  let fraction := digits.drop 1
  String.ofList (digits.take 1) ++
    (if fraction.isEmpty then "" else "." ++ String.ofList fraction) ++
    "e" ++ (if leading < 0 then "-" else "+") ++ toString leading.natAbs

/-- The text of a magnitude, without its sign. -/
def magnitudeText (layout : Layout) (units : Nat) : String :=
  if units = 0 then layout.positionalText ⟨0, 0⟩
  else
    let d := Shortest.decimal units layout.tie
    let leading := ((Nat.toDigits 10 d.digits).length : Int) - 1 + d.exponent
    if layout.positional leading then layout.positionalText d else exponentText d

/-- The text of a number. -/
def text (layout : Layout) : Double → String
  | .nan => "NaN"
  | .infinite negative => if negative then "-Infinity" else "Infinity"
  | .finite negative units _ =>
    (if negative && (layout.signedZero || units != 0) then "-" else "") ++
      layout.magnitudeText units

end Layout

/-- The text a number has among values: `0.1`, `1000000000000000000000`, `NaN`. -/
def Double.display (x : Double) : String := Layout.plain.text x

end Vetting
