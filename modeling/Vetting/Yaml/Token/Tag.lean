import Vetting.Yaml.Token.Basic
import Vetting.Yaml.Token.Scalar

/-!
# Tags and directives

A tag is a handle and a suffix; the handle stands for the beginning of the tag's full name.  A tag
in angle brackets has no handle.  A directive declares the version of the text or the meaning of a
handle.

Each reader starts at the mark that announces what it reads and returns the place behind it.
-/

namespace Vetting

namespace Yaml

/-! ## Characters -/

/-- Letters, digits and the marks of a tag; flow indicators only where `verbatim` allows them. -/
def isTagChar (verbatim : Bool) (c : Char) : Bool :=
  isWordChar c || ";/?:@&=+$.%!~*'()".toList.contains c ||
    (verbatim && (c = ',' || c = '[' || c = ']'))

/-- The octet of a percent sign and two hexadecimal digits. -/
def percentOctet (p : Place) : Option (Nat × Place) :=
  match p.rest with
  | '%' :: digits => (hexNumber 2 0 digits).map fun octet => (octet, p.skip 3)
  | _ => none

/-- How many octets follow the first one of a character, and the bits that the first one holds. -/
def leadingOctet? (octet : Nat) : Option (Nat × Nat) :=
  if octet < 0x80 then some (0, octet)
  else if 0xC0 ≤ octet ∧ octet < 0xE0 then some (1, octet - 0xC0)
  else if 0xE0 ≤ octet ∧ octet < 0xF0 then some (2, octet - 0xE0)
  else if 0xF0 ≤ octet ∧ octet < 0xF8 then some (3, octet - 0xF0)
  else none

/-- Appends the bits of further octets to `value`. -/
def furtherOctets : Nat → Nat → Place → Option (Nat × Place)
  | 0, value, p => some (value, p)
  | count + 1, value, p =>
    match percentOctet p with
    | some (octet, p) =>
      if 0x80 ≤ octet ∧ octet < 0xC0 then furtherOctets count (value * 64 + (octet - 0x80)) p
      else none
    | none => none

/-- A character written as percent signs and octets. -/
def percentChar (p : Place) : Option (Char × Place) := do
  let (first, p) ← percentOctet p
  let (count, bits) ← leadingOctet? first
  let (value, p) ← furtherOctets count bits p
  if value.isValidChar then some (Char.ofNat value, p) else none

/-- The characters of a tag.  The fuel bounds their number. -/
def tagText (verbatim : Bool) : Nat → Place → Option (List Char × Place)
  | 0, p => some ([], p)
  | fuel + 1, p =>
    match p.rest with
    | [] => some ([], p)
    | c :: _ =>
      if !isTagChar verbatim c then some ([], p)
      else
        match if c = '%' then percentChar p else some (c, p.skip 1) with
        | none => none
        | some (d, p) => (tagText verbatim fuel p).map fun (text, p) => (d :: text, p)

/-! ## Tags -/

/-- An exclamation mark, word characters, and a second mark if there is one. -/
def tagHandle (p : Place) : List Char × Place :=
  let name := (p.skip 1).run isWordChar
  let p := p.skip (1 + name.length)
  if p.isAt '!' then ('!' :: name ++ ['!'], p.skip 1) else ('!' :: name, p)

/-- Whether a handle has its second mark. -/
def isClosedHandle (handle : List Char) : Bool := 1 < handle.length && handle.getLast? == some '!'

/-- A tag between angle brackets. -/
def verbatimTag (p : Place) : Option (Token × Place) := do
  let (suffix, p) ← tagText true p.rest.length (p.skip 2)
  if !suffix.isEmpty && p.isAt '>' then some (.tag [] suffix, p.skip 1) else none

/-- A tag without brackets.  What looks like a handle without its second mark belongs to the
suffix; a mark alone is a whole tag. -/
def shorthandTag (p : Place) : Option (Token × Place) := do
  let (handle, p) := tagHandle p
  let (text, p) ← tagText false p.rest.length p
  if isClosedHandle handle then
    if text.isEmpty then none else some (.tag handle text, p)
  else
    let suffix := handle.drop 1 ++ text
    some (if suffix.isEmpty then .tag [] ['!'] else .tag ['!'] suffix, p)

/-- A tag, which reaches up to a blank or the end of the line; between brackets a comma may follow
it as well. -/
def tag (flow : Bool) (p : Place) : Option (Token × Place) := do
  let (token, p) ← if p.satisfies 1 (· = '<') then verbatimTag p else shorthandTag p
  if p.isOpen 0 || (flow && p.isAt ',') then some (token, p) else none

/-! ## Directives -/

/-- Numbers of versions have at most this many digits. -/
def versionDigits : Nat := 9

def versionNumber (p : Place) : Option (Nat × Place) :=
  let digits := p.run Char.isDigit
  if digits.isEmpty || versionDigits < digits.length then none
  else some (digits.foldl (fun n c => n * 10 + (c.toNat - '0'.toNat)) 0, p.skip digits.length)

def versionDirective (p : Place) : Option (Token × Place) := do
  let (major, p) ← versionNumber (p.skipWhile isBlank)
  if p.isAt '.' then
    let (minor, p) ← versionNumber (p.skip 1)
    some (.versionDirective major minor, p)
  else none

def tagDirective (p : Place) : Option (Token × Place) := do
  let p := p.skipWhile isBlank
  if p.isAt '!' then
    let (handle, p) := tagHandle p
    if (handle = ['!'] || isClosedHandle handle) && p.atBlank then
      let p := p.skipWhile isBlank
      let (text, p) ← tagText true p.rest.length p
      if !text.isEmpty && p.isOpen 0 then some (.tagDirective handle text, p) else none
    else none
  else none

/-- A directive, which takes a whole line. -/
def directive (p : Place) : Option (Token × Place) := do
  let name := (p.skip 1).run isWordChar
  let p := p.skip (1 + name.length)
  let (token, p) ←
    if !p.isOpen 0 then none
    else if name = "YAML".toList then versionDirective p
    else if name = "TAG".toList then tagDirective p
    else none
  let p ← p.skipLineEnd?
  some (token, p)

end Yaml

end Vetting
