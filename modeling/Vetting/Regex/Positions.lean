import Vetting.Regex.Expr
import Vetting.Regex.Unicode.Word

/-!
# Positions in a text

A text of `n` characters has the positions 0 to `n`, before, between and after its characters.  A
set of positions is a natural number whose binary digits tell the members, so that sets are joined,
cut and shifted as a whole.

The leaves of a pattern become such sets for a given text: a set of characters becomes the
positions before its members, and an assertion the positions where it holds.
-/

namespace Vetting

namespace Regex

/-- A set of positions, position `i` being bit `i`. -/
abbrev Positions : Type := Nat

namespace Positions

def single (i : Nat) : Positions := Nat.pow 2 i

/-- The positions up to `n`. -/
def upTo (n : Nat) : Positions := Nat.pow 2 (n + 1) - 1

def contains (s : Positions) (i : Nat) : Bool := s.testBit i

/-- The members of `s` that are not in `t`. -/
def diff (s t : Positions) : Positions := s ^^^ (s &&& t)

/-- The positions just before the members. -/
def back (s : Positions) : Positions := s >>> 1

/-- The members beyond position `i`. -/
def beyond (s : Positions) (i : Nat) : Positions := (s >>> (i + 1)) <<< (i + 1)

/-- The least member, looked for among the first `fuel` positions from `i` on. -/
def leastFrom (s : Positions) : Nat → Nat → Option Nat
  | 0, _ => none
  | fuel + 1, i => if s.contains i then some i else leastFrom s fuel (i + 1)

/-- The positions whose answers in the list are `true`. -/
def ofBools : List Bool → Positions
  | [] => 0
  | b :: rest => 2 * ofBools rest + (if b then 1 else 0)

end Positions

/-- The positions before the members of a set of characters. -/
def charPositions (text : List Char) (set : CharSet) : Positions :=
  .ofBools (text.map set.contains)

/-- The answers of a test on the characters before and after each position. -/
def neighbourTests (test : Option Char → Option Char → Bool) :
    Option Char → List Char → List Bool
  | before, [] => [test before none]
  | before, c :: rest => test before (some c) :: neighbourTests test (some c) rest

def isWord (unicode : Bool) : Option Char → Bool
  | some c => if unicode then Unicode.word.contains c else c.isAlphanum || c = '_'
  | none => false

/-- Whether an assertion holds between two characters, none standing for an end of the text. -/
def Look.holds (before after : Option Char) : Look → Bool
  | .textStart => before.isNone
  | .textEnd => after.isNone
  | .lineStart => before.isNone || before == some '\n'
  | .lineEnd => after.isNone || after == some '\n'
  | .lineStartCR =>
    before.isNone || before == some '\n' || (before == some '\r' && after != some '\n')
  | .lineEndCR =>
    after.isNone || after == some '\r' || (after == some '\n' && before != some '\r')
  | .boundary u => isWord u before != isWord u after
  | .noBoundary u => isWord u before == isWord u after
  | .wordStart u => !isWord u before && isWord u after
  | .wordEnd u => isWord u before && !isWord u after
  | .wordStartHalf u => !isWord u before
  | .wordEndHalf u => !isWord u after

def lookPositions (text : List Char) (l : Look) : Positions :=
  .ofBools (neighbourTests (fun before after => l.holds before after) none text)

/-- A pattern placed on a text. -/
def Expr.on (e : Pattern) (text : List Char) : Expr Positions Positions :=
  e.map (charPositions text) (lookPositions text)

end Regex

end Vetting
