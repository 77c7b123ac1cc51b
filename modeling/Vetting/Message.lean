import Vetting.Dict

/-!
# Message templates

A template is a text in which `{{word}}` stands for something to be filled in, a word being a run
of ASCII letters, digits and underscores.  `Template.pieces` cuts a template into tokens and single
characters; `Template.prepare` replaces the tokens, all at once, and leaves every character alone.

A validator keeps its templates by *slot*; the slot `default` is the one most failures use.
-/

namespace Vetting

namespace Template

/-- A token or a single character of a template. -/
inductive Piece where
  | char (c : Char)
  | token (word : List Char)
  deriving DecidableEq, Repr

def isWordChar (c : Char) : Bool := c.isAlphanum || c = '_'

/-- The word of the token that starts here. -/
def tokenAt? : List Char → Option (List Char)
  | '\x7b' :: '\x7b' :: rest =>
    let word := rest.takeWhile isWordChar
    match rest.dropWhile isWordChar with
    | '\x7d' :: '\x7d' :: _ => if word.isEmpty then none else some word
    | _ => none
  | _ => none

/-- The pieces of a template after its first `skip` characters. -/
def piecesAfter : Nat → List Char → List Piece
  | _, [] => []
  | skip + 1, _ :: rest => piecesAfter skip rest
  | 0, c :: rest =>
    match tokenAt? (c :: rest) with
    | some word => .token word :: piecesAfter (word.length + 3) rest
    | none => .char c :: piecesAfter 0 rest

def pieces (template : List Char) : List Piece := piecesAfter 0 template

/-- What a piece becomes; a token without an answer becomes nothing. -/
def Piece.fill (lookup : String → Option String) : Piece → List Char
  | .char c => [c]
  | .token word => ((lookup (String.ofList word)).getD "").toList

/-- The template with its tokens replaced.  Inserted text is not looked at again. -/
def prepare (template : String) (lookup : String → Option String) : String :=
  String.ofList ((pieces template.toList).flatMap (Piece.fill lookup))

/-- The answer of the first reference with the given name. -/
def reference? (references : List (String × String)) (word : String) : Option String :=
  references.lookup word

end Template

/-- Templates by slot. -/
structure Messages where
  templates : Dict String

namespace Messages

/-- The slot of most failures. -/
def defaultSlot : String := "default"

def ofList (templates : List (String × String)) : Messages := ⟨.ofList templates⟩

/-- A single template, in the default slot. -/
def single (template : String) : Messages := ofList [(defaultSlot, template)]

/-- The template of a slot, empty if there is none. -/
def get (m : Messages) (slot : String) : String := (m.templates.find? slot).getD ""

def set (m : Messages) (slot template : String) : Messages := ⟨m.templates.insert slot template⟩

@[simp] theorem find?_set (m : Messages) (slot other template : String) :
    (m.set slot template).templates.find? other =
      if other = slot then some template else m.templates.find? other :=
  Dict.find?_insert m.templates slot other template

def toList (m : Messages) : List (String × String) := m.templates.entries

end Messages

end Vetting
