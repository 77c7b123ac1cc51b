import Vetting.Regex.Positions

/-!
# Matching

Matching runs backwards over sets of positions.  `Expr.before e target` is the set of positions
from which `e` can lead to a position in `target`; a text matches when the set is not empty for the
target of all positions.  Nothing is tried and taken back, so no pattern is slow.

Which match is preferred matters only for the groups it fills.  `Expr.walk` goes forward from a
position and takes, at every choice, the preferred branch among those that still lead to the
target.  A repetition without an upper bound prefers to go on, but only its first round may be
empty: a later one that takes nothing would be the same state again.
-/

namespace Vetting

namespace Regex

/-! ## Where a match can start -/

/-- Applies `step` as long as it adds positions.  `frontier` holds those added last, and the fuel
bounds the rounds, each of which adds a position. -/
def closure (step : Positions → Positions) : Nat → Positions → Positions → Positions
  | 0, reached, _ => reached
  | fuel + 1, reached, frontier =>
    if frontier = 0 then reached
    else
      let added := Positions.diff (step frontier) reached
      closure step fuel (reached ||| added) added

/-- `step` applied `n` times. -/
def iterate (step : Positions → Positions) : Nat → Positions → Positions
  | 0, target => target
  | n + 1, target => iterate step n (step target)

/-- The positions from which at most `n` steps lead to the target. -/
def withinSteps (step : Positions → Positions) (target : Positions) : Nat → Positions
  | 0 => target
  | n + 1 => target ||| step (withinSteps step target n)

/-- The positions from which any number of steps leads to the target.  There is room for as many
rounds as the target has positions below its highest. -/
def anySteps (step : Positions → Positions) (target : Positions) : Positions :=
  closure step (target.log2 + 2) target target

/-- The positions from which an expression leads to the target. -/
def Expr.before : Expr Positions Positions → Positions → Positions
  | .empty, target => target
  | .chars c, target => target.back &&& c
  | .look l, target => target &&& l
  | .seq a b, target => a.before (b.before target)
  | .alt a b, target => a.before target ||| b.before target
  | .rep body min none _, target => iterate body.before min (anySteps body.before target)
  | .rep body min (some max) _, target =>
    iterate body.before min (withinSteps body.before target (max - min))
  | .group _ body, target => body.before target

/-! ## The preferred match -/

/-- The place reached and the groups filled on the way: their index, start and end, the latest
first. -/
structure Walk where
  position : Nat
  groups : List (Nat × Nat × Nat)
  deriving DecidableEq, Repr

namespace Walk

/-- One round of a repetition, given where it may start for a target and how it then goes. -/
structure Round where
  before : Positions → Positions
  walk : Positions → Walk → Walk

/-- Exactly `n` rounds. -/
def exactly (round : Round) (target : Positions) : Nat → Walk → Walk
  | 0, w => w
  | n + 1, w => exactly round target n (round.walk (iterate round.before n target) w)

/-- At most `n` rounds. -/
def upTo (round : Round) (greedy : Bool) (target : Positions) : Nat → Walk → Walk
  | 0, w => w
  | n + 1, w =>
    let next := withinSteps round.before target n
    let stop := target.contains w.position
    if (greedy || !stop) && (round.before next).contains w.position then
      upTo round greedy target n (round.walk next w)
    else w

/-- Any number of further rounds, none of them empty; `opened` holds the positions from which
rounds lead to the target.  The fuel bounds the rounds, each of which takes a character. -/
def further (round : Round) (greedy : Bool) (target opened : Positions) : Nat → Walk → Walk
  | 0, w => w
  | fuel + 1, w =>
    let next := opened.beyond w.position
    let stop := target.contains w.position
    if (greedy || !stop) && (round.before next).contains w.position then
      further round greedy target opened fuel (round.walk next w)
    else w

/-- At least one round, the first of which may be empty if it is the only one. -/
def atLeastOne (round : Round) (greedy : Bool) (target : Positions) (w : Walk) : Walk :=
  let opened := anySteps round.before target
  let next := opened.beyond w.position ||| (target &&& Positions.single w.position)
  let first := round.walk next w
  if first.position = w.position then first
  else further round greedy target opened (opened.log2 + 1) first

/-- Any number of rounds. -/
def anyNumber (round : Round) (greedy : Bool) (target : Positions) (w : Walk) : Walk :=
  let stop := target.contains w.position
  if (greedy || !stop) && (round.before (anySteps round.before target)).contains w.position then
    atLeastOne round greedy target w
  else w

end Walk

/-- The preferred way through an expression to the target, from a position in
`Expr.before e target`. -/
def Expr.walk : Expr Positions Positions → Positions → Walk → Walk
  | .empty, _, w => w
  | .chars _, _, w => { w with position := w.position + 1 }
  | .look _, _, w => w
  | .seq a b, target, w => b.walk target (a.walk (b.before target) w)
  | .alt a b, target, w =>
    if (a.before target).contains w.position then a.walk target w else b.walk target w
  | .rep body min none greedy, target, w =>
    let round : Walk.Round := ⟨body.before, fun t w => body.walk t w⟩
    match min with
    | 0 => Walk.anyNumber round greedy target w
    | more + 1 =>
      Walk.atLeastOne round greedy target
        (Walk.exactly round (body.before (anySteps body.before target)) more w)
  | .rep body min (some max) greedy, target, w =>
    let round : Walk.Round := ⟨body.before, fun t w => body.walk t w⟩
    Walk.upTo round greedy target (max - min)
      (Walk.exactly round (withinSteps body.before target (max - min)) min w)
  | .group index body, target, w =>
    let inner := body.walk target w
    { inner with groups := (index, w.position, inner.position) :: inner.groups }

/-! ## Searching a text -/

/-- Whether a pattern matches somewhere in a text. -/
def Expr.isMatch (e : Pattern) (text : String) : Bool :=
  let cs := text.toList
  (e.on cs).before (.upTo cs.length) != 0

/-- The groups filled by the preferred match that starts first. -/
def Expr.captures? (e : Pattern) (text : String) : Option (List (Nat × Nat × Nat)) :=
  let cs := text.toList
  let placed := e.on cs
  let all := Positions.upTo cs.length
  let starts := placed.before all
  (starts.leastFrom (cs.length + 1) 0).map fun start => (placed.walk all ⟨start, []⟩).groups

end Regex

end Vetting
