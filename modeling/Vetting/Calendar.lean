/-!
# Instants and their text

An `Instant` counts seconds from the start of 1970 in universal time, with nanoseconds; during a
leap second the nanoseconds run on past 10⁹.  `Instant.text` writes it in the extended format
with milliseconds, `2010-11-24T00:00:00.000Z`.

The date is found in the proleptic Gregorian calendar by counting whole periods.  The count starts
on 1 March of the year 0, so that the leap day ends its year, and the calendar repeats itself
after 400 years, or 146097 days.
-/

namespace Vetting

/-- A point in universal time. -/
structure Instant where
  seconds : Int
  nanos : Nat
  deriving DecidableEq, Repr

/-- A date of the Gregorian calendar. -/
structure CivilDate where
  year : Int
  month : Nat
  day : Nat
  deriving DecidableEq, Repr

/-- The last `width` decimal digits of `n`. -/
def decimalPlaces : Nat → Nat → List Char
  | 0, _ => []
  | width + 1, n => decimalPlaces width (n / 10) ++ [Nat.digitChar (n % 10)]

namespace CivilDate

/-- The days from 1 March of the year 0 to 1 January 1970. -/
def epochDays : Int := 719468

/-- The date that lies `days` days after 1 January 1970. -/
def ofDays (days : Int) : CivilDate :=
  let count := days + epochDays
  let cycle := count / 146097
  let dayOfCycle := (count % 146097).toNat
  let yearOfCycle :=
    (dayOfCycle - dayOfCycle / 1460 + dayOfCycle / 36524 - dayOfCycle / 146096) / 365
  let dayOfYear := dayOfCycle - (365 * yearOfCycle + yearOfCycle / 4 - yearOfCycle / 100)
  let monthFromMarch := (5 * dayOfYear + 2) / 153
  let day := dayOfYear - (153 * monthFromMarch + 2) / 5 + 1
  let month := if monthFromMarch < 10 then monthFromMarch + 3 else monthFromMarch - 9
  ⟨cycle * 400 + yearOfCycle + (if month ≤ 2 then 1 else 0), month, day⟩

/-- Four digits for the years 0 to 9999; outside, a sign and at least four digits. -/
def yearText (year : Int) : List Char :=
  let magnitude := year.natAbs
  if 0 ≤ year ∧ year ≤ 9999 then decimalPlaces 4 magnitude
  else
    (if year < 0 then '-' else '+') ::
      decimalPlaces (max 4 (Nat.toDigits 10 magnitude).length) magnitude

end CivilDate

namespace Instant

def date (t : Instant) : CivilDate := .ofDays (t.seconds / 86400)

def secondOfDay (t : Instant) : Nat := (t.seconds % 86400).toNat

def hour (t : Instant) : Nat := t.secondOfDay / 3600

def minute (t : Instant) : Nat := t.secondOfDay / 60 % 60

/-- The second of the minute, 60 during a leap second. -/
def second (t : Instant) : Nat := t.secondOfDay % 60 + t.nanos / 1000000000

/-- The milliseconds, cut off and not rounded. -/
def millisecond (t : Instant) : Nat := t.nanos % 1000000000 / 1000000

/-- The extended format with milliseconds. -/
def text (t : Instant) : String :=
  String.ofList <|
    CivilDate.yearText t.date.year ++ '-' :: decimalPlaces 2 t.date.month ++
      '-' :: decimalPlaces 2 t.date.day ++ 'T' :: decimalPlaces 2 t.hour ++
      ':' :: decimalPlaces 2 t.minute ++ ':' :: decimalPlaces 2 t.second ++
      '.' :: decimalPlaces 3 t.millisecond ++ ['Z']

/-- Earlier and later; a leap second comes after the second that it prolongs. -/
def order (a b : Instant) : Ordering := (compare a.seconds b.seconds).then (compare a.nanos b.nanos)

end Instant

end Vetting
