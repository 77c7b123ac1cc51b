import Vetting.Regex.Compiled

/-!
# How large automata get

The program runs with an engine whose automata read bytes.  They have a chain of states for each
character and a copy of a part for each time that it may be repeated.  Characters of a set that are
written with several bytes share states, so the size of a large set is an average over its ranges.

Only the runs of the program depend on these numbers.
-/

namespace Vetting

namespace Regex

/-- The size of a state. -/
def stateSize : Nat := 32

/-- What a state adds for each range of bytes if it tells several apart. -/
def rangeSize : Nat := 8

/-- What a state adds for each way out if it branches. -/
def branchSize : Nat := 4

/-- What a range of characters beyond ASCII comes to on average. -/
def wideRangeSize : Nat := 60

/-- How many bytes a code point is written with. -/
def byteCount (c : Nat) : Nat :=
  if c < 0x80 then 1 else if c < 0x800 then 2 else if c < 0x10000 then 3 else 4

namespace CharSet

/-- The members of a set of one character, with those that differ in case if they count too. -/
def members? : CharSet → Option (List Nat)
  | .ranges [(first, last)] => if first = last then some [first] else none
  | .anyCase a => a.members?.map fun cs => cs.flatMap caseVariants
  | _ => none

/-- How many ranges pass a test, counted along the expression. -/
def countRanges (test : Nat × Nat → Bool) : CharSet → Nat
  | .ranges rs => rs.countP test
  | .union a b | .inter a b | .diff a b => a.countRanges test + b.countRanges test
  | .compl a => a.countRanges test + 1
  | .anyCase a => 2 * a.countRanges test

/-- The states of a set: a chain for a single character, and otherwise a state that tells the first
bytes apart, what follows each of them, and a state where everything meets. -/
def size (s : CharSet) : Nat :=
  match s.members? with
  | some [c] => stateSize * byteCount c
  | some cs =>
    2 * stateSize +
      cs.foldl (fun sum c => sum + rangeSize + (byteCount c - 1) * (stateSize + rangeSize)) 0
  | none =>
    2 * stateSize + rangeSize * s.countRanges (fun r => r.2 < 0x80) +
      wideRangeSize * s.countRanges (fun r => 0x80 ≤ r.2)

end CharSet

namespace Expr

/-- Whether an expression can take no character. -/
def isZeroWidth : Pattern → Bool
  | .empty | .look _ => true
  | .chars _ => false
  | .seq a b | .alt a b => a.isZeroWidth && b.isZeroWidth
  | .rep body _ max _ => body.isZeroWidth || max == some 0
  | .group _ body => body.isZeroWidth

/-- What the last branch of an alternation adds: the states where the branches part and meet. -/
def junctionSize : Pattern → Nat
  | .alt _ _ => 0
  | _ => 2 * stateSize + branchSize

/-- The size of the automaton of an expression.  What takes no character is not worth repeating and
is there once at most. -/
def size : Pattern → Nat
  | .empty | .look _ => stateSize
  | .chars s => s.size
  | .seq a b => a.size + b.size
  | .alt a b => a.size + b.size + branchSize + b.junctionSize
  | .rep body min max _ =>
    let min := if body.isZeroWidth then Nat.min min 1 else min
    let max := if body.isZeroWidth then some (Nat.min (max.getD 1) 1) else max
    let copies := max.getD (Nat.max min 1)
    let forks := max.elim 1 (· - min)
    let exit := if max.any (min < ·) then stateSize else 0
    copies * body.size + forks * (stateSize + 2 * branchSize) + exit
  | .group _ body => body.size + 2 * stateSize

end Expr

/-- Automata may be this large. -/
def sizeLimit : Nat := 10 * 1024 * 1024

/-- The engine that the program runs with. -/
@[reducible] def Engine.standard : Engine := ⟨fun pattern => pattern.size ≤ sizeLimit⟩

end Regex

end Vetting
