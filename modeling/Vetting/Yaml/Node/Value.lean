import Vetting.Yaml.Node.Basic
import Vetting.Yaml.Scalar

/-!
# The value of a document

Every alias is replaced by the node it refers to.  An alias may stand inside that node, and aliases
of aliases multiply, so there are two limits: on how deep collections nest, and on how many aliases
are followed.

Keys are scalars, and stand for their text whatever it looks like.  Tags on collections mean
nothing, but local tags are an error everywhere except on keys.
-/

namespace Vetting

namespace Yaml

namespace Node

/-- Collections may nest this deep. -/
def nestingLimit : Nat := 128

/-- How many aliases are followed in a document for each mark it has. -/
def aliasesPerMark : Nat := 100

/-- The node itself, or the one that it refers to in the document `root`.  The state counts the
aliases followed. -/
def follow (root : Node) : Node → StateT Nat Option Node
  | .alias anchor => do
    let count ← get
    if aliasesPerMark * root.size ≤ count then failure
    else
      set (count + 1)
      StateT.lift (root.anchored? anchor)
  | node => return node

/-- The text of a scalar. -/
def keyText? : Node → Option String
  | .scalar _ _ text => some (String.ofList text)
  | _ => none

/-- The value of a scalar. -/
def scalarValue? (p : Properties) (plain : Bool) (text : List Char) : Option Json :=
  match p.tag with
  | some tag => if p.isLocal then none else Scalar.tagged? (String.ofList tag) text
  | none => if plain then Scalar.plain? text else some (.text (String.ofList text))

/-- The value of a node whose collections nest at most as deep as the first number says. -/
def value (root : Node) : Nat → Node → StateT Nat Option Json
  | depth, node => do
    match ← root.follow node, depth with
    | .scalar p plain text, _ => StateT.lift (scalarValue? p plain text)
    | .sequence p items, depth + 1 =>
      if p.isLocal then failure else return .array (← items.mapM (value root depth))
    | .mapping p fields, depth + 1 =>
      if p.isLocal then failure
      else
        let entries ← fields.mapM fun (key, item) => do
          let name ← StateT.lift (keyText? (← root.follow key))
          return (name, ← value root depth item)
        return .ofFields entries
    | _, _ => failure

/-- The value of a document. -/
def toJson? (root : Node) : Option Json := (root.value nestingLimit root).run' 0

end Node

end Yaml

end Vetting
