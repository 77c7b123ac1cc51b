import Vetting.Regex.Fault

/-!
# The notation of patterns

The tree that the text of a pattern spells out, before flags and named classes are resolved.
-/

namespace Vetting

namespace Regex

/-- The switches that `(?i)` and its like turn on and off. -/
inductive Flag where
  | ignoreCase
  | multiLine
  | dotMatchesNewline
  | swapGreed
  | unicode
  | carriageReturn
  | verbose
  deriving DecidableEq, Repr

/-- Switches turned on or off, in the order written. -/
abbrev FlagChanges : Type := List (Flag × Bool)

/-- The classes with a letter of their own. -/
inductive ShorthandClass where
  | digit
  | space
  | word
  deriving DecidableEq, Repr

/-- The named classes of ASCII characters. -/
inductive AsciiClass where
  | alnum | alpha | ascii | blank | cntrl | digit | graph
  | lower | print | punct | space | upper | word | xdigit
  deriving DecidableEq, Repr

/-- What a class of Unicode characters is asked for by. -/
inductive UnicodeQuery where
  | name (name : String)
  | property (property value : String)
  deriving DecidableEq, Repr

/-- Set operations inside brackets. -/
inductive SetOp where
  | inter
  | diff
  | symmDiff
  deriving DecidableEq, Repr

/-- A character, and whether it was written as a byte of two hexadecimal digits. -/
structure Literal where
  char : Char
  byte : Bool
  deriving DecidableEq, Repr

/-- What stands between brackets. -/
inductive ClassSet where
  | empty
  | literal (l : Literal)
  | range (first last : Literal)
  | ascii (name : AsciiClass) (negated : Bool)
  | unicode (query : UnicodeQuery) (negated : Bool)
  | shorthand (name : ShorthandClass) (negated : Bool)
  | bracketed (set : ClassSet) (negated : Bool)
  | union (items : List ClassSet)
  | combine (op : SetOp) (left right : ClassSet)

/-- What is asserted about a position, before flags are resolved. -/
inductive Anchor where
  | lineStart
  | lineEnd
  | textStart
  | textEnd
  | boundary
  | noBoundary
  | wordStart
  | wordEnd
  | wordStartHalf
  | wordEndHalf
  deriving DecidableEq, Repr

/-- What may follow a backslash, and what a class is made of. -/
inductive Atom where
  | literal (l : Literal)
  | dot
  | anchor (a : Anchor)
  | shorthand (name : ShorthandClass) (negated : Bool)
  | unicode (query : UnicodeQuery) (negated : Bool)
  deriving DecidableEq, Repr

/-- The text of a pattern as a tree. -/
inductive Syntax where
  | empty
  | setFlags (changes : FlagChanges)
  | atom (a : Atom)
  | bracketed (set : ClassSet) (negated : Bool)
  | repetition (body : Syntax) (min : Nat) (max : Option Nat) (greedy : Bool)
  | capture (index : Nat) (body : Syntax)
  | nonCapture (changes : FlagChanges) (body : Syntax)
  | alternation (branches : List Syntax)
  | concat (parts : List Syntax)
  deriving Inhabited

namespace ClassSet

mutual

/-- How deep sets are nested in brackets, unions and operations. -/
def depth : ClassSet → Nat
  | .bracketed set _ => set.depth + 1
  | .union items => depthAll items + 1
  | .combine _ left right => max left.depth right.depth + 1
  | _ => 0

def depthAll : List ClassSet → Nat
  | [] => 0
  | item :: rest => max item.depth (depthAll rest)

end

end ClassSet

namespace Syntax

mutual

/-- How deep the tree is, leaves not counted. -/
def depth : Syntax → Nat
  | .empty | .setFlags _ | .atom _ => 0
  | .bracketed set _ => set.depth + 1
  | .repetition body _ _ _ => body.depth + 1
  | .capture _ body => body.depth + 1
  | .nonCapture _ body => body.depth + 1
  | .alternation branches => depthAll branches + 1
  | .concat parts => depthAll parts + 1

def depthAll : List Syntax → Nat
  | [] => 0
  | part :: rest => max part.depth (depthAll rest)

end

/-- Parts in a row; a single one stands for itself. -/
def ofParts : List Syntax → Syntax
  | [] => .empty
  | [part] => part
  | parts => .concat parts

/-- Branches in order; a single one stands for itself. -/
def ofBranches : List Syntax → Syntax
  | [] => .empty
  | [branch] => branch
  | branches => .alternation branches

end Syntax

/-- Items of a union; a single one stands for itself. -/
def ClassSet.ofItems : List ClassSet → ClassSet
  | [] => .empty
  | [item] => item
  | items => .union items

end Regex

end Vetting
