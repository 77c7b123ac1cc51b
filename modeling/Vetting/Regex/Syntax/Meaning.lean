import Vetting.Regex.Expr
import Vetting.Regex.Unicode.Query
import Vetting.Regex.Unicode.Word

/-!
# What the notation means

The flags in force travel through a tree from left to right: a change inside a group ends with the
group, but outlasts the branch in which it stands.

With the Unicode flag off, a pattern speaks of bytes.  A text is never cut inside a character, so
all that could match half of one is refused: the dot, a negated class, a byte beyond ASCII.
-/

namespace Vetting

namespace Regex

/-- The switches in force. -/
structure Flags where
  ignoreCase : Bool
  multiLine : Bool
  dotMatchesNewline : Bool
  swapGreed : Bool
  unicode : Bool
  carriageReturn : Bool
  deriving DecidableEq, Repr

namespace Flags

/-- The switches in force at the start of a pattern. -/
def initial (ignoreCase : Bool) : Flags := ⟨ignoreCase, false, false, false, true, false⟩

def set (flags : Flags) (flag : Flag) (on : Bool) : Flags :=
  match flag with
  | .ignoreCase => { flags with ignoreCase := on }
  | .multiLine => { flags with multiLine := on }
  | .dotMatchesNewline => { flags with dotMatchesNewline := on }
  | .swapGreed => { flags with swapGreed := on }
  | .unicode => { flags with unicode := on }
  | .carriageReturn => { flags with carriageReturn := on }
  | .verbose => flags

def apply (flags : Flags) (changes : FlagChanges) : Flags :=
  changes.foldl (fun flags change => flags.set change.1 change.2) flags

end Flags

def ascii : CharSet := .ranges [(0, 0x7f)]

def AsciiClass.set : AsciiClass → CharSet
  | .alnum => .ranges [(0x30, 0x39), (0x41, 0x5a), (0x61, 0x7a)]
  | .alpha => .ranges [(0x41, 0x5a), (0x61, 0x7a)]
  | .ascii => Regex.ascii
  | .blank => .ranges [(0x09, 0x09), (0x20, 0x20)]
  | .cntrl => .ranges [(0x00, 0x1f), (0x7f, 0x7f)]
  | .digit => .ranges [(0x30, 0x39)]
  | .graph => .ranges [(0x21, 0x7e)]
  | .lower => .ranges [(0x61, 0x7a)]
  | .print => .ranges [(0x20, 0x7e)]
  | .punct => .ranges [(0x21, 0x2f), (0x3a, 0x40), (0x5b, 0x60), (0x7b, 0x7e)]
  | .space => .ranges [(0x09, 0x0d), (0x20, 0x20)]
  | .upper => .ranges [(0x41, 0x5a)]
  | .word => .ranges [(0x30, 0x39), (0x41, 0x5a), (0x5f, 0x5f), (0x61, 0x7a)]
  | .xdigit => .ranges [(0x30, 0x39), (0x41, 0x46), (0x61, 0x66)]

def ShorthandClass.set (unicode : Bool) : ShorthandClass → CharSet
  | .digit => if unicode then Unicode.digit else AsciiClass.digit.set
  | .space => if unicode then Unicode.blank else AsciiClass.space.set
  | .word => if unicode then Unicode.word else AsciiClass.word.set

namespace Flags

/-- A set with the case of its members ignored, if that is asked for; without Unicode, only ASCII
letters have a case. -/
def fold (flags : Flags) (set : CharSet) : CharSet :=
  if !flags.ignoreCase then set
  else if flags.unicode then .anyCase set
  else .inter (.anyCase set) ascii

/-- The complement of a set, if that is asked for. -/
def negate (flags : Flags) (negated : Bool) (set : CharSet) : Except Fault CharSet :=
  if !negated then .ok set
  else if flags.unicode then .ok (.compl set)
  else .error .splitsCharacters

/-- The set of a character that stands for itself outside brackets. -/
def literal (flags : Flags) (l : Literal) : Except Fault CharSet :=
  if flags.unicode then .ok (flags.fold (.single l.char))
  else if l.char.toNat < 0x80 then .ok (flags.fold (.single l.char))
  else if l.byte then .error .splitsCharacters
  else .ok (.single l.char)

/-- The code point of a character inside brackets, which without Unicode are sets of bytes. -/
def bracketChar (flags : Flags) (l : Literal) : Except Fault Nat :=
  if flags.unicode ∨ l.char.toNat < 0x80 then .ok l.char.toNat
  else if l.byte then .error .splitsCharacters
  else .error .malformed

def shorthand (flags : Flags) (name : ShorthandClass) (negated : Bool) : Except Fault CharSet :=
  flags.negate negated (name.set flags.unicode)

/-- A class of Unicode characters, which only Unicode patterns may name. -/
def query (flags : Flags) (query : UnicodeQuery) (negated : Bool) : Except Fault CharSet :=
  if flags.unicode then
    match query.set? with
    | some set => flags.negate negated (flags.fold set)
    | none => .error .malformed
  else .error .malformed

/-- All characters that the dot matches. -/
def dot (flags : Flags) : Except Fault CharSet :=
  if !flags.unicode then .error .splitsCharacters
  else if flags.dotMatchesNewline then .ok (.compl .empty)
  else if flags.carriageReturn then .ok (.compl (.ranges [(0x0a, 0x0a), (0x0d, 0x0d)]))
  else .ok (.compl (.ranges [(0x0a, 0x0a)]))

def look (flags : Flags) : Anchor → Look
  | .lineStart =>
    if !flags.multiLine then .textStart
    else if flags.carriageReturn then .lineStartCR else .lineStart
  | .lineEnd =>
    if !flags.multiLine then .textEnd
    else if flags.carriageReturn then .lineEndCR else .lineEnd
  | .textStart => .textStart
  | .textEnd => .textEnd
  | .boundary => .boundary flags.unicode
  | .noBoundary => .noBoundary flags.unicode
  | .wordStart => .wordStart flags.unicode
  | .wordEnd => .wordEnd flags.unicode
  | .wordStartHalf => .wordStartHalf flags.unicode
  | .wordEndHalf => .wordEndHalf flags.unicode

end Flags

def SetOp.apply : SetOp → CharSet → CharSet → CharSet
  | .inter, a, b => .inter a b
  | .diff, a, b => .diff a b
  | .symmDiff, a, b => .symmDiff a b

namespace ClassSet

mutual

/-- The characters of a bracket, before its own negation.  Case is ignored before a set is negated
and before sets are set against each other. -/
def meaning (flags : Flags) : ClassSet → Except Fault CharSet
  | .empty => .ok .empty
  | .literal l => (flags.bracketChar l).map fun c => .ranges [(c, c)]
  | .range first last => do
    let a ← flags.bracketChar first
    let b ← flags.bracketChar last
    return .ranges [(a, b)]
  | .ascii name negated => flags.negate negated (flags.fold name.set)
  | .unicode query negated => flags.query query negated
  | .shorthand name negated => flags.shorthand name negated
  | .bracketed set negated => do flags.negate negated (flags.fold (← set.meaning flags))
  | .union items => meaningAll flags items
  | .combine op left right => do
    let a ← left.meaning flags
    let b ← right.meaning flags
    return op.apply (flags.fold a) (flags.fold b)

def meaningAll (flags : Flags) : List ClassSet → Except Fault CharSet
  | [] => .ok .empty
  | item :: rest => do
    let a ← item.meaning flags
    let b ← meaningAll flags rest
    return .union a b

end

end ClassSet

def Atom.meaning (flags : Flags) : Atom → Except Fault Pattern
  | .literal l => (flags.literal l).map .chars
  | .dot => flags.dot.map .chars
  | .anchor a => .ok (.look (flags.look a))
  | .shorthand name negated => (flags.shorthand name negated).map .chars
  | .unicode query negated => (flags.query query negated).map .chars

namespace Syntax

mutual

/-- The expression that a tree stands for, and the flags in force after it. -/
def meaning (flags : Flags) : Syntax → Except Fault (Pattern × Flags)
  | .empty => .ok (.empty, flags)
  | .setFlags changes => .ok (.empty, flags.apply changes)
  | .atom a => (a.meaning flags).map fun e => (e, flags)
  | .bracketed set negated => do
    let members ← set.meaning flags
    let members ← flags.negate negated (flags.fold members)
    return (.chars members, flags)
  | .repetition body min max greedy => do
    let (e, flags) ← body.meaning flags
    return (.rep e min max (greedy != flags.swapGreed), flags)
  | .capture index body => do
    let (e, _) ← body.meaning flags
    return (.group index e, flags)
  | .nonCapture changes body => do
    let (e, _) ← body.meaning (flags.apply changes)
    return (e, flags)
  | .alternation branches => do
    let (es, flags) ← meaningAll flags branches
    return (.altAll es, flags)
  | .concat parts => do
    let (es, flags) ← meaningAll flags parts
    return (.seqAll es, flags)

def meaningAll (flags : Flags) : List Syntax → Except Fault (List Pattern × Flags)
  | [] => .ok ([], flags)
  | part :: rest => do
    let (e, flags) ← part.meaning flags
    let (es, flags) ← meaningAll flags rest
    return (e :: es, flags)

end

end Syntax

end Regex

end Vetting
