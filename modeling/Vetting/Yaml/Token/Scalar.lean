import Vetting.Yaml.Place

/-!
# Scalars

The ways to write a text: plain, between quotes, and as a block of lines.  Inside a plain or quoted
scalar, lines are folded: a single line break becomes a blank, and of several the first is dropped.

Each reader returns the text and the place behind it.  Fuel bounds the characters taken; it is the
length of the text that is left.
-/

namespace Vetting

namespace Yaml

/-! ## Gaps -/

/-- Blanks and line breaks between the words of a scalar. -/
structure Gap where
  /-- The blanks, as long as no line has ended. -/
  blanks : List Char
  /-- Whether a line has ended. -/
  broken : Bool
  /-- The first line break. -/
  first : List Char
  /-- The line breaks after the first. -/
  others : List Char

namespace Gap

def empty : Gap := ⟨[], false, [], []⟩

/-- What a gap becomes when a word follows. -/
def text (g : Gap) : List Char :=
  if !g.broken then g.blanks
  else if g.first = ['\n'] then (if g.others.isEmpty then [' '] else g.others)
  else g.first ++ g.others

/-- Reads a gap.  Once a line has ended, no tab may stand before the column `indent`. -/
def read (indent : Nat) : Nat → Gap → Place → Option (Gap × Place)
  | 0, g, p => some (g, p)
  | fuel + 1, g, p =>
    match p.rest with
    | [] => some (g, p)
    | c :: _ =>
      if isBlank c then
        if !g.broken then read indent fuel { g with blanks := g.blanks ++ [c] } (p.skip 1)
        else if c = '\t' && p.column < indent then none
        else read indent fuel g (p.skip 1)
      else if isBreak c then
        if !g.broken then read indent fuel ⟨[], true, p.breakText, []⟩ p.skipBreak
        else read indent fuel { g with others := g.others ++ p.breakText } p.skipBreak
      else some (g, p)

end Gap

/-! ## Plain scalars -/

/-- The characters that delimit collections between brackets. -/
def isFlowIndicator (c : Char) : Bool := c = ',' || c = '[' || c = ']' || c = '\x7b' || c = '\x7d'

/-- The characters of a plain scalar up to a blank or an indicator that ends it.  Between brackets
a colon may not touch an indicator. -/
def plainWord (flow : Bool) : Nat → Place → Option (List Char × Place)
  | 0, p => some ([], p)
  | fuel + 1, p =>
    match p.rest with
    | [] => some ([], p)
    | c :: _ =>
      if p.isOpen 0 then some ([], p)
      else if flow && c = ':' && p.satisfies 1 (fun d => isFlowIndicator d || d = '?') then none
      else if (c = ':' && p.isOpen 1) || (flow && isFlowIndicator c) then some ([], p)
      else (plainWord flow fuel (p.skip 1)).map fun (word, p) => (c :: word, p)

/-- A plain scalar, whose text so far is `text` and is followed by `gap`.  Outside brackets it ends
before a line that is not indented by `indent`.  The last result tells whether a line ended behind
the scalar. -/
def plainScalar (flow : Bool) (indent : Nat) :
    Nat → List Char → Gap → Place → Option (List Char × Place × Bool)
  | 0, _, _, _ => none
  | fuel + 1, text, gap, p =>
    if p.atDocumentMarker || p.isAt '#' then some (text, p, gap.broken)
    else
      match plainWord flow p.rest.length p with
      | none => none
      | some (word, p) =>
        let text := if word.isEmpty then text else text ++ gap.text ++ word
        let gap := if word.isEmpty then gap else Gap.empty
        if p.atBlank || p.atBreak then
          match Gap.read indent p.rest.length gap p with
          | none => none
          | some (gap, p) =>
            if !flow && p.column < indent then some (text, p, gap.broken)
            else plainScalar flow indent fuel text gap p
        else some (text, p, gap.broken)

/-! ## Quoted scalars -/

def hexDigit? (c : Char) : Option Nat :=
  if c.isDigit then some (c.toNat - '0'.toNat)
  else if 'a' ≤ c ∧ c ≤ 'f' then some (c.toNat - 'a'.toNat + 10)
  else if 'A' ≤ c ∧ c ≤ 'F' then some (c.toNat - 'A'.toNat + 10)
  else none

/-- The number that the next `width` characters spell in hexadecimal. -/
def hexNumber : Nat → Nat → List Char → Option Nat
  | 0, value, _ => some value
  | _ + 1, _, [] => none
  | width + 1, value, c :: rest =>
    match hexDigit? c with
    | some d => hexNumber width (value * 16 + d) rest
    | none => none

/-- The character of an escape of one letter. -/
def namedEscape? (c : Char) : Option Char :=
  match c with
  | '0' => some '\x00'
  | 'a' => some '\x07'
  | 'b' => some '\x08'
  | 't' => some '\t'
  | '\t' => some '\t'
  | 'n' => some '\n'
  | 'v' => some '\x0b'
  | 'f' => some '\x0c'
  | 'r' => some '\r'
  | 'e' => some '\x1b'
  | ' ' => some ' '
  | '"' => some '"'
  | '/' => some '/'
  | '\\' => some '\\'
  | 'N' => some '\u0085'
  | '_' => some '\u00a0'
  | 'L' => some '\u2028'
  | 'P' => some '\u2029'
  | _ => none

/-- How many hexadecimal digits follow the letter of an escape. -/
def escapeWidth? (c : Char) : Option Nat :=
  match c with
  | 'x' => some 2
  | 'u' => some 4
  | 'U' => some 8
  | _ => none

/-- The character of an escape, whose backslash stands here, and the place behind it. -/
def escaped (p : Place) : Option (Char × Place) :=
  match p.rest with
  | _ :: c :: rest =>
    match escapeWidth? c with
    | some width =>
      match hexNumber width 0 rest with
      | some value =>
        if value.isValidChar then some (Char.ofNat value, p.skip (2 + width)) else none
      | none => none
    | none => (namedEscape? c).map fun d => (d, p.skip 2)
  | _ => none

/-- The characters of a quoted scalar up to a blank, a line break, the closing quote or an escaped
line break; the last result tells whether it was the latter, which is passed over. -/
def quotedWord (single : Bool) : Nat → Place → Option (List Char × Place × Bool)
  | 0, p => some ([], p, false)
  | fuel + 1, p =>
    match p.rest with
    | [] => some ([], p, false)
    | c :: _ =>
      if p.isOpen 0 then some ([], p, false)
      else if single && c = '\'' then
        if p.satisfies 1 (· = '\'') then
          (quotedWord single fuel (p.skip 2)).map fun (word, rest) => ('\'' :: word, rest)
        else some ([], p, false)
      else if !single && c = '"' then some ([], p, false)
      else if !single && c = '\\' then
        if p.satisfies 1 isBreak then some ([], (p.skip 1).skipBreak, true)
        else
          match escaped p with
          | none => none
          | some (d, p) => (quotedWord single fuel p).map fun (word, rest) => (d :: word, rest)
      else (quotedWord single fuel (p.skip 1)).map fun (word, rest) => (c :: word, rest)

/-- A quoted scalar behind its opening quote, whose text so far is `text`. -/
def quotedScalar (single : Bool) : Nat → List Char → Place → Option (List Char × Place)
  | 0, _, _ => none
  | fuel + 1, text, p =>
    if p.atDocumentMarker || p.atEnd then none
    else
      match quotedWord single p.rest.length p with
      | none => none
      | some (word, p, broken) =>
        let text := text ++ word
        if p.isAt (if single then '\'' else '"') then some (text, p.skip 1)
        else
          match Gap.read 0 p.rest.length { Gap.empty with broken } p with
          | none => none
          | some (gap, p) => quotedScalar single fuel (text ++ gap.text) p

/-! ## Block scalars -/

/-- What becomes of the line breaks at the end of a block. -/
inductive Chomping where
  | strip
  | clip
  | keep
  deriving DecidableEq, Repr

def chomping? (c : Char) : Option Chomping :=
  match c with
  | '+' => some .keep
  | '-' => some .strip
  | _ => none

/-- The indicators behind the bar or angle: chomping and indentation, in either order.  The
indentation is a digit other than zero. -/
def blockHeader (p : Place) : Option (Chomping × Nat × Place) :=
  let digit (p : Place) : Option (Nat × Place) :=
    match p.rest with
    | c :: _ =>
      if c.isDigit then if c = '0' then none else some (c.toNat - '0'.toNat, p.skip 1)
      else some (0, p)
    | [] => some (0, p)
  match p.rest.head?.bind chomping? with
  | some chomping => (digit (p.skip 1)).map fun (increment, p) => (chomping, increment, p)
  | none =>
    match digit p with
    | none => none
    | some (0, p) => some (.clip, 0, p)
    | some (increment, p) =>
      match p.rest.head?.bind chomping? with
      | some chomping => some (chomping, increment, p.skip 1)
      | none => some (.clip, increment, p)

/-- Passes over indentation and empty lines.  With an indentation of zero, which stands for one not
yet known, all blanks count as indentation.  Returns the line breaks and the greatest column. -/
def blockBreaks (indent : Nat) : Nat → Nat → List Char → Place → Option (Nat × List Char × Place)
  | 0, widest, breaks, p => some (widest, breaks, p)
  | fuel + 1, widest, breaks, p =>
    let blanks := (p.run (· = ' ')).length
    let p := p.skip (if indent = 0 then blanks else min blanks (indent - p.column))
    let widest := max widest p.column
    if (indent = 0 || p.column < indent) && p.isAt '\t' then none
    else if p.atBreak then
      blockBreaks indent fuel widest (breaks ++ p.breakText) p.skipBreak
    else some (widest, breaks, p)

/-- The lines of a block.  `leading` is the break behind the line before, `trailing` are the breaks
of empty lines after it, and `indented` tells whether that line began with a blank. -/
def blockLines (literal : Bool) (indent : Nat) :
    Nat → List Char → List Char → List Char → Bool → Place →
      Option (List Char × List Char × List Char × Place)
  | 0, text, leading, trailing, _, p => some (text, leading, trailing, p)
  | fuel + 1, text, leading, trailing, indented, p =>
    if p.column = indent && !p.atEnd then
      let blank := p.atBlank
      let folded := !literal && leading = ['\n'] && !indented && !blank
      let joint := if folded then (if trailing.isEmpty then [' '] else []) else leading
      let line := p.run fun c => !isBreak c
      let ending := p.skip line.length
      match blockBreaks indent ending.rest.length 0 [] ending.skipBreak with
      | none => none
      | some (_, breaks, next) =>
        blockLines literal indent fuel (text ++ joint ++ trailing ++ line) ending.breakText breaks
          blank next
    else some (text, leading, trailing, p)

/-- A block scalar behind its bar or angle, inside a block indented by `parent`.  Without an
indicator the indentation is that of its first line, and at least one more than the parent's. -/
def blockScalar (literal : Bool) (parent : Int) (p : Place) : Option (List Char × Place) := do
  let (chomping, increment, p) ← blockHeader p
  let p ← p.skipLineEnd?
  let fixed := if increment = 0 then 0 else (max parent 0).toNat + increment
  let (widest, breaks, p) ← blockBreaks fixed (p.rest.length + 1) 0 [] p
  let indent := if fixed = 0 then max widest (max (parent + 1).toNat 1) else fixed
  let (text, leading, trailing, p) ←
    blockLines literal indent (p.rest.length + 1) [] [] breaks false p
  return match chomping with
    | .strip => (text, p)
    | .clip => (text ++ leading, p)
    | .keep => (text ++ leading ++ trailing, p)

end Yaml

end Vetting
