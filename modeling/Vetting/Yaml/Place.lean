/-!
# Places in a YAML text

A place is what is left of the text, with the number of characters before it and its line and
column.  Columns decide the nesting of blocks; the line and the number of characters decide how far
a key may reach.
-/

namespace Vetting

namespace Yaml

def isBlank (c : Char) : Bool := c = ' ' || c = '\t'

/-- The characters that end a line. -/
def isBreak (c : Char) : Bool :=
  c = '\r' || c = '\n' || c = '\u0085' || c = '\u2028' || c = '\u2029'

/-- Letters, digits, the underscore and the hyphen. -/
def isWordChar (c : Char) : Bool := c.isAlphanum || c = '_' || c = '-'

structure Place where
  rest : List Char
  index : Nat
  line : Nat
  column : Nat
  deriving DecidableEq, Repr

namespace Place

def ofText (text : List Char) : Place := ⟨text, 0, 0, 0⟩

/-- The place `n` characters further on the same line. -/
def skip (p : Place) (n : Nat) : Place :=
  ⟨p.rest.drop n, p.index + n, p.line, p.column + n⟩

/-- The place behind the characters for which `test` holds. -/
def skipWhile (p : Place) (test : Char → Bool) : Place := p.skip (p.rest.takeWhile test).length

/-- The characters from here on for which `test` holds. -/
def run (p : Place) (test : Char → Bool) : List Char := p.rest.takeWhile test

/-- The place behind a line break, which takes two characters if it is a return and a feed. -/
def skipBreak (p : Place) : Place :=
  match p.rest with
  | '\r' :: '\n' :: rest => ⟨rest, p.index + 2, p.line + 1, 0⟩
  | _ :: rest => ⟨rest, p.index + 1, p.line + 1, 0⟩
  | [] => p

/-- What a line break here stands for in a scalar. -/
def breakText (p : Place) : List Char :=
  match p.rest with
  | c :: _ => if c = '\u2028' || c = '\u2029' then [c] else ['\n']
  | [] => []

/-- Whether `test` holds of the character `n` further on. -/
def satisfies (p : Place) (n : Nat) (test : Char → Bool) : Bool := (p.rest[n]?).any test

def isAt (p : Place) (c : Char) : Bool := p.rest.head? == some c

def atBlank (p : Place) : Bool := p.satisfies 0 isBlank

def atBreak (p : Place) : Bool := p.satisfies 0 isBreak

def atEnd (p : Place) : Bool := p.rest.isEmpty

/-- Whether the text ends, a line ends or a blank stands `n` characters further on. -/
def isOpen (p : Place) (n : Nat) : Bool := (p.rest[n]?).all fun c => isBlank c || isBreak c

/-- Whether three characters `c` stand alone at the start of a line. -/
def atMarker (p : Place) (c : Char) : Bool :=
  p.column == 0 && p.rest.take 3 == [c, c, c] && p.isOpen 3

/-- Whether a document starts or ends here. -/
def atDocumentMarker (p : Place) : Bool := p.atMarker '-' || p.atMarker '.'

/-- The place behind blanks and a comment, which must be the end of the line, and behind the line
break there. -/
def skipLineEnd? (p : Place) : Option Place :=
  let p := p.skipWhile isBlank
  let p := if p.isAt '#' then p.skipWhile fun c => !isBreak c else p
  if p.atEnd then some p else if p.atBreak then some p.skipBreak else none

end Place

end Yaml

end Vetting
