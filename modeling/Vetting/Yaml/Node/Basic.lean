/-!
# Nodes of YAML

A node is what a document is made of before its tags and plain scalars have been given a meaning
and its aliases have been followed.

Anchors are numbers.  Aliases refer to the last node in the document that bears their number, a
node counting before those inside it.
-/

namespace Vetting

namespace Yaml

/-- What may stand before a node. -/
structure Properties where
  anchor : Option Nat
  /-- The full name of the tag. -/
  tag : Option (List Char)
  deriving DecidableEq, Repr

namespace Properties

def none : Properties := ⟨.none, .none⟩

/-- Whether a node has properties at all. -/
def isSome (p : Properties) : Bool := p.anchor.isSome || p.tag.isSome

/-- Whether the tag is local to the document. -/
def isLocal (p : Properties) : Bool := p.tag.any fun tag => tag.head? == some '!'

end Properties

inductive Node where
  | alias (anchor : Nat)
  /-- A scalar, and whether it stood without quotes and block indicators. -/
  | scalar (properties : Properties) (plain : Bool) (text : List Char)
  | sequence (properties : Properties) (items : List Node)
  | mapping (properties : Properties) (fields : List (Node × Node))
  deriving Inhabited

namespace Node

/-- A plain scalar without text. -/
def empty (properties : Properties) : Node := .scalar properties true []

def properties : Node → Properties
  | .alias _ => .none
  | .scalar p _ _ => p
  | .sequence p _ => p
  | .mapping p _ => p

/-! ## All nodes of a document -/

mutual

/-- A node and all nodes inside it, as they follow in the document. -/
def flatten : Node → List Node
  | .alias n => [.alias n]
  | .scalar p plain text => [.scalar p plain text]
  | .sequence p items => .sequence p items :: flattenItems items
  | .mapping p fields => .mapping p fields :: flattenFields fields

/-- The nodes of a sequence. -/
def flattenItems : List Node → List Node
  | [] => []
  | item :: rest => item.flatten ++ flattenItems rest

/-- The nodes of a mapping. -/
def flattenFields : List (Node × Node) → List Node
  | [] => []
  | (key, value) :: rest => key.flatten ++ (value.flatten ++ flattenFields rest)

end

/-- How many marks a node itself makes in a document: a collection begins and ends. -/
def weight : Node → Nat
  | .alias _ | .scalar .. => 1
  | .sequence .. | .mapping .. => 2

/-- The marks of a node and all nodes inside it. -/
def size (node : Node) : Nat := (node.flatten.map weight).foldr (· + ·) 0

/-- The node that an alias refers to, inside the document `root`. -/
def anchored? (root : Node) (anchor : Nat) : Option Node :=
  root.flatten.reverse.find? fun node => node.properties.anchor == some anchor

end Node

end Yaml

end Vetting
