import Vetting.Regex.CharSet

/-!
# Tables of code points

The tables of the Unicode standard are long, so they are written down as text: a row gives the
names of a set, in small letters without blanks, hyphens and underscores, and its ranges in
hexadecimal, `41-5a c0 d8-de`.
-/

namespace Vetting

namespace Regex

namespace Unicode

/-- A named set. -/
structure Row where
  /-- The names, with a blank between them. -/
  names : String
  /-- The ranges, with a blank between them; each line is a new range. -/
  lines : List String

namespace Row

def hexValue (c : Char) : Nat :=
  if c.isDigit then c.toNat - '0'.toNat else c.toNat - 'a'.toNat + 10

/-- Reads ranges: `first` is the start of the range being read once its hyphen has been met, and
`current` the number being read. -/
def readRanges : Option Nat → Nat → List Char → List (Nat × Nat)
  | first, current, [] => [(first.getD current, current)]
  | first, current, c :: rest =>
    if c = ' ' then (first.getD current, current) :: readRanges none 0 rest
    else if c = '-' then readRanges (some current) 0 rest
    else readRanges first (current * 16 + hexValue c) rest

def ranges (row : Row) : List (Nat × Nat) :=
  row.lines.flatMap fun line => readRanges none 0 line.toList

def set (row : Row) : CharSet := .ranges row.ranges

def isNamed (row : Row) (name : String) : Bool := (row.names.splitOn " ").contains name

end Row

/-- The set of a name in a table. -/
def find? (table : List Row) (name : String) : Option CharSet :=
  (table.find? fun row => row.isNamed name).map Row.set

end Unicode

end Regex

end Vetting
