import Vetting.Regex.Syntax.Basic
import Vetting.Regex.Unicode.Word
import Vetting.Regex.Unicode.Property

/-!
# Reading patterns

The reader follows the notation character by character.  It keeps a `Cursor`: the text ahead,
whether blanks and comments are to be passed over, and the groups opened so far.

Every malformed pattern is refused, and nothing is guessed at: look-around, back-references and
unknown escapes are faults, while a bracket or brace that closes nothing stands for itself.  The
fuel of the recursive readers is the length of the pattern, since each call is made behind at least
one more character; and a nesting that the depth limit cannot let pass is given up at once.
-/

namespace Vetting

namespace Regex

namespace Parser

/-- Trees may be this deep. -/
def depthLimit : Nat := 250

/-- Repetition counts stay below this limit. -/
def countLimit : Nat := Nat.pow 2 32

structure Cursor where
  /-- The text ahead. -/
  rest : List Char
  /-- Whether blanks and comments are passed over. -/
  verbose : Bool
  /-- The number of capturing groups opened. -/
  groups : Nat
  /-- The names given to groups. -/
  names : List (List Char)

abbrev Parse (α : Type) : Type := StateT Cursor (Except Fault) α

def malformed {α : Type} : Parse α := throw .malformed

/-! ## Moving on -/

def isBlank (c : Char) : Bool := Unicode.blank.contains c

/-- The text after blanks and comments; the flag tells whether a comment is being passed. -/
def dropIgnored : Bool → List Char → List Char
  | _, [] => []
  | true, c :: rest => dropIgnored (c != '\n') rest
  | false, c :: rest =>
    if c = '#' then dropIgnored true rest
    else if isBlank c then dropIgnored false rest
    else c :: rest

/-- Passes over blanks and comments if they do not count. -/
def skipIgnored : Parse Unit :=
  modify fun s => if s.verbose then { s with rest := dropIgnored false s.rest } else s

def peek : Parse (Option Char) := do return (← get).rest.head?

/-- The character after the next. -/
def peekSecond : Parse (Option Char) := do return (← get).rest[1]?

/-- The character after the next, blanks not counted.  The mark of a comment is passed over too,
but not its text; when nothing else follows, the first blank is the answer. -/
def peekPastBlanks : Parse (Option Char) := do
  let s ← get
  let after := s.rest.drop 1
  if s.verbose then
    let visible := match after.dropWhile isBlank with
      | '#' :: more => more.dropWhile isBlank
      | more => more
    return visible.head?.orElse fun _ => after.head?
  else return after.head?

def advance : Parse Unit := modify fun s => { s with rest := s.rest.drop 1 }

/-- Moves past the next character and what is passed over after it. -/
def advanceSkip : Parse Unit := do advance; skipIgnored

/-- The next character, which must be there. -/
def need : Parse Char := do
  match ← peek with
  | some c => return c
  | none => malformed

/-- Moves past `word` if it comes next. -/
def accept (word : String) : Parse Bool := do
  let s ← get
  if word.toList.isPrefixOf s.rest then
    set { s with rest := s.rest.drop word.length }
    return true
  else return false

/-- Moves past the characters for which `test` holds. -/
def dropMatching (test : Char → Bool) : Parse Unit :=
  modify fun s => { s with rest := s.rest.dropWhile test }

/-- The characters at the front for which `test` holds, and the text after them.  After each, what
is ignored is dropped.  The fuel is the length of the text. -/
def visibleRun (verbose : Bool) (test : Char → Bool) : Nat → List Char → List Char × List Char
  | 0, cs => ([], cs)
  | _ + 1, [] => ([], [])
  | fuel + 1, c :: rest =>
    if test c then
      let next := visibleRun verbose test fuel (if verbose then dropIgnored false rest else rest)
      (c :: next.1, next.2)
    else ([], c :: rest)

/-- The characters ahead for which `test` holds, moving past them. -/
def takeVisible (test : Char → Bool) : Parse (List Char) := do
  let s ← get
  let run := visibleRun s.verbose test s.rest.length s.rest
  set { s with rest := run.2 }
  return run.1

/-! ## Escapes -/

/-- Characters that mean something, in some place, when they stand without a backslash. -/
def isMeta (c : Char) : Bool := "\\.+*?()|[]\x7b\x7d^$#&-~".toList.contains c

/-- Characters that a backslash leaves as they are: all of ASCII but letters, digits and the two
angles. -/
def isEscapeable (c : Char) : Bool :=
  c.toNat < 0x80 && !c.isAlphanum && c != '<' && c != '>'

def hexDigit? (c : Char) : Option Nat :=
  if c.isDigit then some (c.toNat - '0'.toNat)
  else if 'a' ≤ c ∧ c ≤ 'f' then some (c.toNat - 'a'.toNat + 10)
  else if 'A' ≤ c ∧ c ≤ 'F' then some (c.toNat - 'A'.toNat + 10)
  else none

/-- The character of a code point given in hexadecimal. -/
def hexChar (digits : List Char) : Parse Char := do
  let value ← digits.foldlM (fun value c => do
    match hexDigit? c with
    | some d => return value * 16 + d
    | none => malformed) 0
  if value.isValidChar ∧ digits ≠ [] then return Char.ofNat value else malformed

/-- The next `n` characters, each of which must be there. -/
def takeExactly : Nat → Parse (List Char)
  | 0 => return []
  | n + 1 => do
    let c ← need
    advanceSkip
    return c :: (← takeExactly n)

/-- A code point after the letter of its escape: in braces, or with `width` digits. -/
def hexEscape (width : Nat) : Parse Literal := do
  advanceSkip
  if (← need) = '\x7b' then
    advanceSkip
    let digits ← takeVisible (· != '\x7d')
    let _ ← need
    advanceSkip
    return ⟨← hexChar digits, false⟩
  else
    let digits ← takeExactly width
    return ⟨← hexChar digits, width == 2⟩

/-- Cuts a text at the first place where `mark` stands. -/
def cutAt? (mark : List Char) : List Char → Option (List Char × List Char)
  | [] => none
  | c :: rest =>
    if mark.isPrefixOf (c :: rest) then some ([], (c :: rest).drop mark.length)
    else (cutAt? mark rest).map fun (left, right) => (c :: left, right)

/-- What the text between the braces of a class asks for. -/
def unicodeQuery (text : List Char) : UnicodeQuery :=
  let cut := (cutAt? ['!', '='] text).orElse fun _ =>
    (cutAt? [':'] text).orElse fun _ => cutAt? ['='] text
  match cut with
  | some (property, value) => .property (String.ofList property) (String.ofList value)
  | none => .name (String.ofList text)

/-- A class of Unicode characters after its letter. -/
def unicodeEscape (negated : Bool) : Parse Atom := do
  advanceSkip
  let c ← need
  if c = '\x7b' then
    advanceSkip
    let text ← takeVisible (· != '\x7d')
    let _ ← need
    advance
    return .unicode (unicodeQuery text) negated
  else if c = '\\' then malformed
  else
    advanceSkip
    return .unicode (.name (String.ofList [c])) negated

def isBoundaryNameChar (c : Char) : Bool := c.isAlpha || c = '-'

def boundaryNamed? (name : List Char) : Option Anchor :=
  match String.ofList name with
  | "start" => some .wordStart
  | "end" => some .wordEnd
  | "start-half" => some .wordStartHalf
  | "end-half" => some .wordEndHalf
  | _ => none

/-- A word boundary after its letter, whose kind may follow in braces.  Braces that hold no name
are left for the repetition they begin. -/
def boundaryEscape : Parse Anchor := do
  if (← peek) = some '\x7b' then
    let start ← get
    advanceSkip
    if isBoundaryNameChar (← need) then
      let name ← takeVisible isBoundaryNameChar
      if (← need) ≠ '\x7d' then malformed
      advance
      match boundaryNamed? name with
      | some anchor => return anchor
      | none => malformed
    else
      set start
      return .boundary
  else return .boundary

/-- The escapes of one letter. -/
def letterEscape? (c : Char) : Option Atom :=
  match c with
  | 'a' => some (.literal ⟨'\x07', false⟩)
  | 'f' => some (.literal ⟨'\x0c', false⟩)
  | 't' => some (.literal ⟨'\t', false⟩)
  | 'n' => some (.literal ⟨'\n', false⟩)
  | 'r' => some (.literal ⟨'\r', false⟩)
  | 'v' => some (.literal ⟨'\x0b', false⟩)
  | 'd' => some (.shorthand .digit false)
  | 'D' => some (.shorthand .digit true)
  | 's' => some (.shorthand .space false)
  | 'S' => some (.shorthand .space true)
  | 'w' => some (.shorthand .word false)
  | 'W' => some (.shorthand .word true)
  | 'A' => some (.anchor .textStart)
  | 'z' => some (.anchor .textEnd)
  | 'B' => some (.anchor .noBoundary)
  | '<' => some (.anchor .wordStart)
  | '>' => some (.anchor .wordEnd)
  | _ => none

/-- An escape from its backslash on. -/
def escape : Parse Atom := do
  advance
  let c ← need
  if c = 'x' then return .literal (← hexEscape 2)
  else if c = 'u' then return .literal (← hexEscape 4)
  else if c = 'U' then return .literal (← hexEscape 8)
  else if c = 'p' then unicodeEscape false
  else if c = 'P' then unicodeEscape true
  else
    advance
    if isMeta c || isEscapeable c then return .literal ⟨c, false⟩
    else if c = 'b' then return .anchor (← boundaryEscape)
    else match letterEscape? c with
      | some atom => return atom
      | none => malformed

/-! ## Brackets -/

def asciiClass? (name : List Char) : Option AsciiClass :=
  match String.ofList name with
  | "alnum" => some .alnum
  | "alpha" => some .alpha
  | "ascii" => some .ascii
  | "blank" => some .blank
  | "cntrl" => some .cntrl
  | "digit" => some .digit
  | "graph" => some .graph
  | "lower" => some .lower
  | "print" => some .print
  | "punct" => some .punct
  | "space" => some .space
  | "upper" => some .upper
  | "word" => some .word
  | "xdigit" => some .xdigit
  | _ => none

/-- The class `[:name:]` or `[:^name:]` at the front, and the text after it. -/
def asciiClassAt? : List Char → Option (ClassSet × List Char)
  | '[' :: ':' :: rest =>
    let (negated, rest) := match rest with
      | '^' :: more => (true, more)
      | _ => (false, rest)
    match asciiClass? (rest.takeWhile (· != ':')), rest.dropWhile (· != ':') with
    | some name, ':' :: ']' :: after => some (.ascii name negated, after)
    | _, _ => none
  | _ => none

/-- Hyphens at the front of a bracket, which stand for themselves. -/
def leadingHyphens : Nat → Parse (List ClassSet)
  | 0 => return []
  | fuel + 1 => do
    if (← need) = '-' then
      advanceSkip
      return .literal ⟨'-', false⟩ :: (← leadingHyphens fuel)
    else return []

/-- The front of a bracket: whether it is negated, and the items that count as characters there
only. -/
def bracketOpening : Parse (Bool × List ClassSet) := do
  advanceSkip
  let negated := (← need) = '^'
  if negated then advanceSkip
  let hyphens ← leadingHyphens (← get).rest.length
  if hyphens.isEmpty ∧ (← need) = ']' then
    advanceSkip
    let _ ← need
    return (negated, [.literal ⟨']', false⟩])
  else
    let _ ← need
    return (negated, hyphens)

def classAtom : Parse Atom := do
  let c ← need
  if c = '\\' then escape
  else
    advance
    return .literal ⟨c, false⟩

/-- An item of a bracket: a class, a character, or a range of characters. -/
def classItem : Parse ClassSet := do
  let first ← classAtom
  skipIgnored
  let c ← need
  let past ← peekPastBlanks
  if c ≠ '-' ∨ past = some ']' ∨ past = some '-' then
    match first with
    | .literal l => return .literal l
    | .shorthand name negated => return .shorthand name negated
    | .unicode query negated => return .unicode query negated
    | _ => malformed
  else
    advanceSkip
    let second ← classAtom
    match first, second with
    | .literal l, .literal m => if l.char ≤ m.char then return .range l m else malformed
    | _, _ => malformed

def setOp? : Char → Option Char → Option SetOp
  | '&', some '&' => some .inter
  | '-', some '-' => some .diff
  | '~', some '~' => some .symmDiff
  | _, _ => none

/-- The items read so far as the right side of the operation before them. -/
def closeOperand (pending : Option (SetOp × ClassSet)) (items : List ClassSet) : ClassSet :=
  let set := ClassSet.ofItems items.reverse
  match pending with
  | some (op, left) => .combine op left set
  | none => set

/-- A bracket after its opening, up to and with its end.  `items` holds the items since the last
operation, the last first. -/
def bracketBody : Nat → Nat → Option (SetOp × ClassSet) → List ClassSet → Parse ClassSet
  | 0, _, _, _ => malformed
  | fuel + 1, depth, pending, items => do
    skipIgnored
    let c ← need
    if c = '[' then
      match asciiClassAt? (← get).rest with
      | some (item, rest) =>
        modify fun s => { s with rest }
        bracketBody fuel depth pending (item :: items)
      | none =>
        if depthLimit ≤ depth then throw .nestedTooDeep
        let (negated, first) ← bracketOpening
        let inner ← bracketBody fuel (depth + 1) none first
        bracketBody fuel depth pending (.bracketed inner negated :: items)
    else if c = ']' then
      advance
      return closeOperand pending items
    else
      match setOp? c (← peekSecond) with
      | some op =>
        advance
        advance
        bracketBody fuel depth (some (op, closeOperand pending items)) []
      | none =>
        let item ← classItem
        bracketBody fuel depth pending (item :: items)

/-- A whole bracket. -/
def bracket : Parse Syntax := do
  let (negated, first) ← bracketOpening
  let set ← bracketBody ((← get).rest.length + 1) 0 none first
  return .bracketed set negated

/-! ## Repetitions -/

/-- Moves past the mark of a reluctant repetition, and tells whether it was missing. -/
def isGreedy : Parse Bool := do
  if (← peek) = some '?' then
    advance
    return false
  else return true

/-- A number, with blanks around it. -/
def decimal : Parse Nat := do
  dropMatching isBlank
  let digits ← takeVisible Char.isDigit
  let _ ← takeVisible isBlank
  let value := digits.foldl (fun value c => value * 10 + (c.toNat - '0'.toNat)) 0
  if digits.isEmpty ∨ countLimit ≤ value then malformed else return value

/-- The counts between braces, from the opening brace on. -/
def counts : Parse (Nat × Option Nat) := do
  advanceSkip
  let min ← decimal
  let max ← if (← need) = ',' then do
      advanceSkip
      if (← need) = '\x7d' then pure none else some <$> decimal
    else pure (some min)
  if (← need) ≠ '\x7d' then malformed
  match max with
  | some n => if n < min then malformed else return (min, max)
  | none => return (min, max)

/-- Whether something can be repeated. -/
def isRepeatable : Syntax → Bool
  | .empty | .setFlags _ => false
  | _ => true

/-! ## Groups -/

def flag? (c : Char) : Option Flag :=
  match c with
  | 'i' => some .ignoreCase
  | 'm' => some .multiLine
  | 's' => some .dotMatchesNewline
  | 'U' => some .swapGreed
  | 'u' => some .unicode
  | 'R' => some .carriageReturn
  | 'x' => some .verbose
  | _ => none

/-- Flags up to a colon or a closing parenthesis, which is returned with the text after it.  Each
flag may occur once, and so may the hyphen, after which flags are turned off; a hyphen needs a flag
behind it. -/
def readFlags (changes : FlagChanges) (negated dangling : Bool) :
    List Char → Option (FlagChanges × Char × List Char)
  | [] => none
  | c :: rest =>
    if c = ':' ∨ c = ')' then if dangling then none else some (changes.reverse, c, rest)
    else if c = '-' then if negated then none else readFlags changes true true rest
    else match flag? c with
      | none => none
      | some f =>
        if changes.any fun change => change.1 = f then none
        else readFlags ((f, !negated) :: changes) negated false rest

def isNameChar (first : Bool) (c : Char) : Bool :=
  let letter := ((Unicode.property? "alphabetic").getD .empty).contains c
  if first then c = '_' || letter
  else
    c = '_' || c = '.' || c = '[' || c = ']' || letter ||
      ((Unicode.category? "n").getD .empty).contains c

/-- The name of a group, which ends at an angle. -/
def groupName : Parse Unit := do
  let s ← get
  let name := s.rest.takeWhile (· != '>')
  let wellFormed := match name with
    | [] => false
    | c :: more => isNameChar true c && more.all (isNameChar false)
  if !wellFormed || s.names.contains name then malformed
  set { s with rest := s.rest.drop name.length, names := name :: s.names }
  if (← need) = '>' then advance

/-- What a parenthesis opens. -/
inductive Opening where
  | flags (changes : FlagChanges)
  | capture (index : Nat)
  | nonCapture (changes : FlagChanges)

def newGroup : Parse Nat := do
  let s ← get
  set { s with groups := s.groups + 1 }
  return s.groups + 1

/-- Moves past the first of the words that comes next. -/
def acceptAny : List String → Parse Bool
  | [] => return false
  | word :: words => do
    if ← accept word then return true else acceptAny words

/-- What stands behind an opening parenthesis. -/
def opening : Parse Opening := do
  advanceSkip
  if ← acceptAny ["?=", "?!", "?<=", "?<!"] then malformed
  else if ← acceptAny ["?P<", "?<"] then
    let index ← newGroup
    groupName
    return .capture index
  else if ← accept "?" then
    match readFlags [] false false (← get).rest with
    | none => malformed
    | some (changes, last, rest) =>
      modify fun s => { s with rest }
      if last = ':' then return .nonCapture changes
      else if changes.isEmpty then malformed
      else return .flags changes
  else return .capture (← newGroup)

/-- Whether blanks are passed over after some changes of flags. -/
def verboseAfter (verbose : Bool) (changes : FlagChanges) : Bool :=
  (changes.lookup .verbose).getD verbose

/-! ## The whole -/

/-- Reads up to the end of the group or of the text.  `branches` holds the branches before and
`parts` the parts of the present one, both with the last first. -/
def alternatives : Nat → Nat → List Syntax → List Syntax → Parse Syntax
  | 0, _, _, _ => malformed
  | fuel + 1, depth, branches, parts => do
    skipIgnored
    let branch := Syntax.ofParts parts.reverse
    match ← peek with
    | none => return .ofBranches (branch :: branches).reverse
    | some c =>
      if c = ')' then return .ofBranches (branch :: branches).reverse
      else if c = '|' then
        advance
        alternatives fuel depth (branch :: branches) []
      else if c = '(' then
        let verbose := (← get).verbose
        let opened ← opening
        match opened with
        | .flags changes =>
          modify fun s => { s with verbose := verboseAfter verbose changes }
          alternatives fuel depth branches (.setFlags changes :: parts)
        | _ =>
          if depthLimit ≤ depth then throw .nestedTooDeep
          let changes := match opened with
            | .nonCapture changes => changes
            | _ => []
          modify fun s => { s with verbose := verboseAfter verbose changes }
          let body ← alternatives fuel (depth + 1) [] []
          if (← need) ≠ ')' then malformed
          modify fun s => { s with verbose }
          advance
          let group := match opened with
            | .capture index => Syntax.capture index body
            | _ => .nonCapture changes body
          alternatives fuel depth branches (group :: parts)
      else if c = '[' then
        let set ← bracket
        alternatives fuel depth branches (set :: parts)
      else if c = '?' || c = '*' || c = '+' || c = '\x7b' then
        match parts with
        | [] => malformed
        | body :: before =>
          if !isRepeatable body then malformed
          let (min, max) ←
            if c = '\x7b' then do
              let range ← counts
              advanceSkip
              pure range
            else do
              advance
              pure (if c = '+' then 1 else 0, if c = '?' then some 1 else none)
          let greedy ← isGreedy
          alternatives fuel depth branches (.repetition body min max greedy :: before)
      else
        let atom ← if c = '\\' then escape
          else do
            advance
            pure (match c with
              | '.' => Atom.dot
              | '^' => .anchor .lineStart
              | '$' => .anchor .lineEnd
              | _ => .literal ⟨c, false⟩)
        alternatives fuel depth branches (.atom atom :: parts)

/-- The tree of a pattern. -/
def pattern : Parse Syntax := do
  let tree ← alternatives ((← get).rest.length + 1) 0 [] []
  match ← peek with
  | some _ => malformed
  | none => if depthLimit < tree.depth then throw .nestedTooDeep else return tree

end Parser

/-- The tree that the text of a pattern spells out. -/
def Syntax.read (text : String) : Except Fault Syntax :=
  (Parser.pattern.run ⟨text.toList, false, 0, []⟩).map (·.1)

end Regex

end Vetting
