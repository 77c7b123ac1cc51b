import Vetting.Regex.Unicode.CaseFold

/-!
# Sets of characters

A set is built from ranges of code points by the usual operations and by closing it under case.
It is kept as the expression that builds it: all that matching needs is membership.
-/

namespace Vetting

namespace Regex

inductive CharSet where
  /-- The code points between two ends, both included, for one of the pairs. -/
  | ranges (rs : List (Nat × Nat))
  | union (a b : CharSet)
  | inter (a b : CharSet)
  | diff (a b : CharSet)
  | compl (a : CharSet)
  /-- All characters that differ in case at most from a member. -/
  | anyCase (a : CharSet)
  deriving DecidableEq, Repr

namespace CharSet

def empty : CharSet := .ranges []

def single (c : Char) : CharSet := .ranges [(c.toNat, c.toNat)]

def range (first last : Char) : CharSet := .ranges [(first.toNat, last.toNat)]

/-- The code points in either set but not in both. -/
def symmDiff (a b : CharSet) : CharSet := .union (.diff a b) (.diff b a)

/-- Membership of a code point. -/
def mem : CharSet → Nat → Bool
  | .ranges rs, c => rs.any fun r => r.1 ≤ c && c ≤ r.2
  | .union a b, c => a.mem c || b.mem c
  | .inter a b, c => a.mem c && b.mem c
  | .diff a b, c => a.mem c && !b.mem c
  | .compl a, c => !a.mem c
  | .anyCase a, c => (caseVariants c).any fun d => a.mem d

def contains (s : CharSet) (c : Char) : Bool := s.mem c.toNat

end CharSet

end Regex

end Vetting
