import Vetting.Regex.CharSet

/-!
# Regular expressions

What a pattern means once its notation and its flags have been dealt with.  The two leaves are left
open: an expression as it was written has sets of characters and assertions for leaves, while one
that is being matched has the positions of a text at which they hold.
-/

namespace Vetting

namespace Regex

/-- A regular expression over two kinds of leaves: `chars` takes one character, `look` takes none.
In an alternation the left branch is preferred. -/
inductive Expr (C L : Type) where
  | empty
  | chars (c : C)
  | look (l : L)
  | seq (a b : Expr C L)
  | alt (a b : Expr C L)
  /-- At least `min` and at most `max` times, preferably many if `greedy`. -/
  | rep (body : Expr C L) (min : Nat) (max : Option Nat) (greedy : Bool)
  | group (index : Nat) (body : Expr C L)
  deriving DecidableEq, Repr

/-- What is asserted about a position. -/
inductive Look where
  | textStart
  | textEnd
  | lineStart
  | lineEnd
  /-- The line assertions where a carriage return ends a line too. -/
  | lineStartCR
  | lineEndCR
  /-- Assertions about the word characters before and after: whether they differ, whether a word
  starts or ends, and the halves of the latter, which look at one side only. -/
  | boundary (unicode : Bool)
  | noBoundary (unicode : Bool)
  | wordStart (unicode : Bool)
  | wordEnd (unicode : Bool)
  | wordStartHalf (unicode : Bool)
  | wordEndHalf (unicode : Bool)
  deriving DecidableEq, Repr

/-- A pattern's meaning. -/
abbrev Pattern : Type := Expr CharSet Look

namespace Expr

variable {C L D M : Type}

/-- The same expression over other leaves. -/
def map (f : C → D) (g : L → M) : Expr C L → Expr D M
  | .empty => .empty
  | .chars c => .chars (f c)
  | .look l => .look (g l)
  | .seq a b => .seq (a.map f g) (b.map f g)
  | .alt a b => .alt (a.map f g) (b.map f g)
  | .rep body min max greedy => .rep (body.map f g) min max greedy
  | .group index body => .group index (body.map f g)

/-- Expressions one after the other. -/
def seqAll : List (Expr C L) → Expr C L
  | [] => .empty
  | [e] => e
  | e :: rest => .seq e (seqAll rest)

/-- Expressions in order of preference; without any, the empty expression. -/
def altAll : List (Expr C L) → Expr C L
  | [] => .empty
  | [e] => e
  | e :: rest => .alt e (altAll rest)

/-- Once, preferably, or not at all. -/
def opt (e : Expr C L) : Expr C L := .rep e 0 (some 1) true

/-- Any number of times. -/
def star (e : Expr C L) : Expr C L := .rep e 0 none true

/-- At least once. -/
def plus (e : Expr C L) : Expr C L := .rep e 1 none true

/-- At least `min` and at most `max` times. -/
def times (e : Expr C L) (min max : Nat) : Expr C L := .rep e min (some max) true

end Expr

end Regex

end Vetting
