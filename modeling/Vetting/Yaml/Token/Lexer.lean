import Vetting.Yaml.Token.Tag

/-!
# Cutting a text into tokens

A colon may turn what stands before it into a key, and open a mapping that begins with that key.
So the lexer remembers where a key may have begun, for every open bracket and for the block around
them all, and puts the tokens that announce the key and the mapping there when it meets the colon.

Such a key takes one line and at most 1024 characters.  One that begins at the column of the
innermost block must turn out to be a key.
-/

namespace Vetting

namespace Yaml

/-- Where a key may have begun. -/
structure PossibleKey where
  place : Place
  /-- How many tokens stand before it. -/
  number : Nat
  /-- Whether it is an error if it is none. -/
  required : Bool

namespace PossibleKey

/-- A key has at most this many characters. -/
def maxLength : Nat := 1024

/-- Whether a colon at a place comes too late for the key. -/
def isStale (key : PossibleKey) (p : Place) : Bool :=
  key.place.line < p.line || key.place.index + maxLength < p.index

end PossibleKey

structure Lexer where
  place : Place
  /-- The columns of the open blocks, the innermost first. -/
  indents : List Nat
  /-- The possible key between the innermost brackets. -/
  key : Option PossibleKey
  /-- The possible keys outside them, one for each open bracket. -/
  outer : List (Option PossibleKey)
  /-- Whether a key may begin here. -/
  keyAllowed : Bool
  tokens : Array Token

namespace Lexer

def start (text : List Char) : Lexer where
  place := .ofText text
  indents := []
  key := none
  outer := []
  keyAllowed := true
  tokens := #[]

/-- Whether a bracket is open. -/
def inFlow (l : Lexer) : Bool := !l.outer.isEmpty

/-- The column of the innermost block, −1 if none is open. -/
def indent (l : Lexer) : Int := (l.indents.head?.map Int.ofNat).getD (-1)

def emit (l : Lexer) (token : Token) : Lexer := { l with tokens := l.tokens.push token }

def moveTo (l : Lexer) (p : Place) : Lexer := { l with place := p }

def allowKey (l : Lexer) (allowed : Bool) : Lexer := { l with keyAllowed := allowed }

/-! ## Blocks -/

/-- Opens a block if the column lies inside the innermost one.  Its first token takes the place
`number` among the tokens.  Between brackets there are no blocks. -/
def openBlock (l : Lexer) (column number : Nat) (token : Token) : Lexer :=
  if !l.inFlow && l.indent < column then
    { l with
      indents := column :: l.indents
      tokens := l.tokens.insertIdxIfInBounds number token }
  else l

/-- Opens a block here. -/
def openBlockHere (l : Lexer) (token : Token) : Lexer :=
  l.openBlock l.place.column l.tokens.size token

/-- Closes the blocks that lie deeper than the column. -/
def closeBlocks (l : Lexer) (column : Int) : Lexer :=
  if l.inFlow then l
  else
    let closed := l.indents.takeWhile fun (indent : Nat) => column < indent
    { l with
      indents := l.indents.drop closed.length
      tokens := l.tokens ++ Array.replicate closed.length Token.blockEnd }

/-! ## Keys -/

/-- Forgets a possible key; a required one cannot be forgotten. -/
def dropKey (l : Lexer) : Option Lexer :=
  if l.key.any fun key => key.required then none else some { l with key := none }

/-- Remembers that a key may begin here. -/
def saveKey (l : Lexer) : Option Lexer :=
  if l.keyAllowed then
    let required := !l.inFlow && l.indent = l.place.column
    l.dropKey.map fun l => { l with key := some ⟨l.place, l.tokens.size, required⟩ }
  else some l

/-- Forgets one of the possible keys if it is stale. -/
def freshKey (p : Place) (key : Option PossibleKey) : Option (Option PossibleKey) :=
  match key with
  | none => some none
  | some k => if k.isStale p then (if k.required then none else some none) else some (some k)

/-- Forgets all possible keys that are stale. -/
def dropStaleKeys (l : Lexer) : Option Lexer := do
  let key ← freshKey l.place l.key
  let outer ← l.outer.mapM (freshKey l.place)
  return { l with key, outer }

/-! ## Tokens -/

def byteOrderMark : Char := '\ufeff'

/-- Passes over blanks, comments and line breaks.  Where a key may begin, a tab is no blank.  The
fuel bounds the number of lines. -/
def skipGap : Nat → Lexer → Lexer
  | 0, l => l
  | fuel + 1, l =>
    let p := l.place
    let p := if p.column = 0 && p.isAt byteOrderMark then p.skip 1 else p
    let tabs := l.inFlow || !l.keyAllowed
    let p := p.skipWhile fun c => c = ' ' || (tabs && c = '\t')
    let p := if p.isAt '#' then p.skipWhile fun c => !isBreak c else p
    if p.atBreak then skipGap fuel ((l.moveTo p.skipBreak).allowKey (l.keyAllowed || !l.inFlow))
    else l.moveTo p

/-- A token of `n` characters that ends what might have become a key. -/
def mark (l : Lexer) (n : Nat) (token : Token) (allowed : Bool) : Option Lexer :=
  l.dropKey.map fun l => ((l.emit token).moveTo (l.place.skip n)).allowKey allowed

/-- A token that closes all blocks. -/
def documentMark (l : Lexer) (token : Token) : Option Lexer :=
  (l.closeBlocks (-1)).mark 3 token false

def openBracket (l : Lexer) (token : Token) : Option Lexer :=
  l.saveKey.map fun l =>
    let l := { l with key := none, outer := l.key :: l.outer }
    ((l.emit token).moveTo (l.place.skip 1)).allowKey true

def closeBracket (l : Lexer) (token : Token) : Option Lexer := do
  let l ← l.mark 1 token false
  return match l.outer with
    | key :: outer => { l with key, outer }
    | [] => l

/-- An indicator that opens a block around what follows. -/
def blockMark (l : Lexer) (block token : Token) : Option Lexer :=
  if l.inFlow then some (l.emit token)
  else if l.keyAllowed then some ((l.openBlockHere block).emit token)
  else none

def blockEntry (l : Lexer) : Option Lexer := do
  let l ← l.dropKey
  let l ← l.blockMark .blockSequenceStart .blockEntry
  return (l.moveTo (l.place.skip 1)).allowKey true

def explicitKey (l : Lexer) : Option Lexer := do
  let l ← l.dropKey
  let l ← l.blockMark .blockMappingStart .key
  return (l.moveTo (l.place.skip 1)).allowKey !l.inFlow

/-- A colon, and the key before it if there is one. -/
def value (l : Lexer) : Option Lexer :=
  let p := l.place.skip 1
  match l.key with
  | some key =>
    let l := { l with key := none, tokens := l.tokens.insertIdxIfInBounds key.number .key }
    let l := l.openBlock key.place.column key.number .blockMappingStart
    some (((l.emit .value).moveTo p).allowKey false)
  | none =>
    (l.blockMark .blockMappingStart .value).map fun l => (l.moveTo p).allowKey !l.inFlow

/-- A token that a key may consist of or begin with. -/
def keyToken (l : Lexer) (read : Place → Option (Token × Place)) : Option Lexer := do
  let l ← l.saveKey
  let (token, p) ← read l.place
  return ((l.emit token).moveTo p).allowKey false

/-- The characters that may follow the name of an anchor or alias, blanks and line ends apart. -/
def endsName (c : Char) : Bool := "?:,]\x7d%@\x60".toList.contains c

/-- The name of an anchor or alias, behind its mark. -/
def anchorName (p : Place) : Option (List Char × Place) :=
  let name := (p.skip 1).run isWordChar
  let p := p.skip (1 + name.length)
  if !name.isEmpty && (p.isOpen 0 || p.satisfies 0 endsName) then some (name, p) else none

def blockText (l : Lexer) (literal : Bool) : Option Lexer := do
  let l ← l.dropKey
  let (text, p) ← blockScalar literal l.indent (l.place.skip 1)
  return ((l.emit (.scalar false text)).moveTo p).allowKey true

def quotedText (l : Lexer) (single : Bool) : Option Lexer :=
  l.keyToken fun p =>
    (quotedScalar single p.rest.length [] (p.skip 1)).map fun (text, p) => (.scalar false text, p)

/-- A key may begin behind a plain scalar only if a line has ended there. -/
def plainText (l : Lexer) : Option Lexer := do
  let l ← l.saveKey
  let p := l.place
  let (text, p, broken) ←
    plainScalar l.inFlow (l.indent + 1).toNat (p.rest.length + 1) [] .empty p
  return ((l.emit (.scalar true text)).moveTo p).allowKey broken

/-- The characters that mean something of their own at the start of a token. -/
def isIndicator (c : Char) : Bool :=
  "-?:,[]\x7b\x7d#&*!|>'\"%@\x60".toList.contains c

/-- Whether a plain scalar may begin here.  It begins with no indicator, except for a hyphen, a
question mark or a colon that something follows without a gap. -/
def startsPlain (l : Lexer) : Bool :=
  let p := l.place
  (!p.isOpen 0 && !p.satisfies 0 isIndicator) ||
    (p.isAt '-' && !p.satisfies 1 isBlank) ||
    (!l.inFlow && (p.isAt '?' || p.isAt ':') && !p.isOpen 1)

/-- The next token, which begins here. -/
def token (l : Lexer) : Option Lexer :=
  let p := l.place
  let loose := l.inFlow || p.isOpen 1
  match p.rest with
  | [] => none
  | c :: _ =>
    if p.column = 0 && c = '%' then do
      let l ← (l.closeBlocks (-1)).dropKey
      let (token, p) ← directive p
      return ((l.emit token).moveTo p).allowKey false
    else if p.atMarker '-' then l.documentMark .documentStart
    else if p.atMarker '.' then l.documentMark .documentEnd
    else if c = '[' then l.openBracket .flowSequenceStart
    else if c = '\x7b' then l.openBracket .flowMappingStart
    else if c = ']' then l.closeBracket .flowSequenceEnd
    else if c = '\x7d' then l.closeBracket .flowMappingEnd
    else if c = ',' then l.mark 1 .flowEntry true
    else if c = '-' && p.isOpen 1 then l.blockEntry
    else if c = '?' && loose then l.explicitKey
    else if c = ':' && loose then l.value
    else if c = '*' then
      l.keyToken fun p => (anchorName p).map fun (name, p) => (.alias name, p)
    else if c = '&' then
      l.keyToken fun p => (anchorName p).map fun (name, p) => (.anchor name, p)
    else if c = '!' then l.keyToken (tag l.inFlow)
    else if c = '|' && !l.inFlow then l.blockText true
    else if c = '>' && !l.inFlow then l.blockText false
    else if c = '\'' then l.quotedText true
    else if c = '"' then l.quotedText false
    else if l.startsPlain then l.plainText
    else none

/-- All tokens up to the end.  The fuel bounds their number; every token takes a character. -/
def run : Nat → Lexer → Option (List Token)
  | 0, _ => none
  | fuel + 1, l => do
    let l := skipGap (l.place.rest.length + 1) l
    let l ← l.dropStaleKeys
    let l := l.closeBlocks l.place.column
    if l.place.atEnd then
      let l ← (l.closeBlocks (-1)).dropKey
      return l.tokens.toList
    else
      let l ← l.token
      run fuel l

end Lexer

/-- The tokens of a text. -/
def Token.ofText? (text : List Char) : Option (List Token) :=
  (Lexer.start text).run (text.length + 1)

end Yaml

end Vetting
