import Vetting.Regex.Compiled

/-!
# Addresses on networks

The patterns behind the `url`, `email`, `ip` and `hostname` checks.
-/

namespace Vetting

namespace Address

open Regex Regex.Expr

/-! ## Building blocks -/

def char (c : Char) : Pattern := .chars (.single c)

/-- A character but for its case. -/
def anyCaseChar (c : Char) : Pattern := .chars (.anyCase (.single c))

/-- A text but for its case. -/
def anyCaseText (s : String) : Pattern := seqAll (s.toList.map anyCaseChar)

/-- A text. -/
def literal (s : String) : Pattern := seqAll (s.toList.map char)

def textStart : Pattern := .look .textStart

def textEnd : Pattern := .look .textEnd

/-- Any character but a line feed. -/
def anyChar : Pattern := .chars (.compl (.single '\n'))

/-- A decimal digit between two others. -/
def digits (first last : Char) : Pattern := .chars (.range first last)

/-! ## Dotted hosts -/

/-- A letter or digit, but for case. -/
def labelStart : Pattern := .chars (.anyCase (.ranges [(0x41, 0x5a), (0x30, 0x39)]))

/-- A letter, digit, underscore or hyphen, but for case. -/
def labelRest : Pattern :=
  .chars (.anyCase (.ranges [(0x41, 0x5a), (0x30, 0x39), (0x5f, 0x5f), (0x2d, 0x2d)]))

def label : Pattern := .seq labelStart (star labelRest)

/-- Two or more labels with dots between them. -/
def dottedHost : Pattern := .seq label (plus (.seq (char '.') label))

/-! ## Mail -/

/-- A dotted host behind an at sign, up to the end. -/
def email : Pattern := seqAll [char '@', dottedHost, textEnd]

/-! ## URLs -/

/-- The index of the group that a scheme fills. -/
def schemeGroup : Nat := 1

/-- One of the schemes with its colon and slashes. -/
def schemePart (schemes : List String) : Pattern :=
  .group schemeGroup (.seq (altAll (schemes.map anyCaseText)) (literal "://"))

/-- A dotted host at the start, with a scheme before it or not. -/
def url (schemes : List String) : Pattern :=
  seqAll [textStart, opt (schemePart schemes), dottedHost]

/-- The schemes of the web. -/
def webSchemes : List String := ["http", "https"]

/-! ## Internet addresses -/

/-- A decimal number up to 255 of at most three digits. -/
def octet : Pattern :=
  altAll [
    .seq (literal "25") (digits '0' '5'),
    seqAll [char '2', digits '0' '4', digits '0' '9'],
    seqAll [opt (digits '0' '1'), digits '0' '9', opt (digits '0' '9')]]

def ipv4 : Pattern :=
  seqAll [textStart, octet, char '.', octet, char '.', octet, char '.', octet, textEnd]

def hexDigit : Pattern := .chars (.ranges [(0x30, 0x39), (0x61, 0x66), (0x41, 0x46)])

/-- One to four hexadecimal digits. -/
def hextet : Pattern := times hexDigit 1 4

def hextetColon : Pattern := .seq hextet (char ':')

def colonHextet : Pattern := .seq (char ':') hextet

/-- An octet without leading zeros. -/
def plainOctet : Pattern :=
  .alt (.seq (literal "25") (digits '0' '5'))
    (.seq
      (opt (.alt (.seq (char '2') (digits '0' '4')) (.seq (opt (char '1')) (digits '0' '9'))))
      (digits '0' '9'))

/-- Four octets with any characters between them. -/
def embeddedIpv4 : Pattern := .seq (times (.seq plainOctet anyChar) 3 3) plainOctet

/-- The written forms of addresses of eight hextets: all of them, a run of zeros left out at
different places, a link with its zone, and those that end like an address of four octets.  They
are looked for anywhere in a text. -/
def ipv6 : Pattern :=
  altAll [
    .seq (times hextetColon 7 7) hextet,
    .seq (times hextetColon 1 7) (char ':'),
    seqAll [times hextetColon 1 6, char ':', hextet],
    .seq (times hextetColon 1 5) (times colonHextet 1 2),
    .seq (times hextetColon 1 4) (times colonHextet 1 3),
    .seq (times hextetColon 1 3) (times colonHextet 1 4),
    .seq (times hextetColon 1 2) (times colonHextet 1 5),
    .seq hextetColon (times colonHextet 1 6),
    .seq (char ':') (.alt (times colonHextet 1 7) (char ':')),
    seqAll [literal "fe80:", times (.seq (char ':') (times hexDigit 0 4)) 0 4, char '%',
      plus (.chars (.ranges [(0x30, 0x39), (0x61, 0x7a), (0x41, 0x5a)]))],
    seqAll [literal "::",
      opt (seqAll [literal "ffff", opt (.seq (char ':') (times (char '0') 1 4)), char ':']),
      embeddedIpv4],
    seqAll [times hextetColon 1 4, char ':', embeddedIpv4]]

/-! ## Host names -/

def letter : Pattern := .chars (.ranges [(0x61, 0x7a), (0x41, 0x5a)])

def letterOrDigit : Pattern := .chars (.ranges [(0x61, 0x7a), (0x41, 0x5a), (0x30, 0x39)])

def letterDigitHyphen : Pattern :=
  .chars (.ranges [(0x2d, 0x2d), (0x61, 0x7a), (0x41, 0x5a), (0x30, 0x39)])

/-- A label of at most 63 characters that neither starts nor ends with a hyphen. -/
def hostLabel : Pattern :=
  .seq (opt (.seq letterOrDigit (times letterDigitHyphen 0 61))) letterOrDigit

/-- The same for the last label, which starts with a letter. -/
def lastHostLabel : Pattern :=
  .alt (seqAll [letter, times letterDigitHyphen 0 61, letterOrDigit]) letter

def hostname : Pattern :=
  seqAll [textStart, star (.seq hostLabel (char '.')), lastHostLabel, opt (char '.'), textEnd]

/-- Host names are at most this long. -/
def hostnameLimit : Nat := 255

def isHostname (s : String) : Bool :=
  1 ≤ s.length && s.length ≤ hostnameLimit && hostname.isMatch s

/-- Whether a text is an address of one of the families asked for. -/
def isIp (v4 v6 : Bool) (s : String) : Bool := (v4 && ipv4.isMatch s) || (v6 && ipv6.isMatch s)

/-- Whether a pattern matches a text and, in strict mode, fills the group of the scheme. -/
def matchesUrl (pattern : Pattern) (strict : Bool) (s : String) : Bool :=
  match pattern.captures? s with
  | none => false
  | some groups => !strict || groups.any fun g => g.1 = schemeGroup

end Address

end Vetting
