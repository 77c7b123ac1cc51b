import Vetting.Yaml.Node.Basic
import Vetting.Yaml.Token.Basic

/-!
# From tokens to nodes

Each function takes a node or a part of one from the tokens and returns what is left.  The fuel is
twice the number of tokens: every item of a collection takes a token, and so does every collection
around it.
-/

namespace Vetting

namespace Yaml

namespace Node

/-- What is left to read, and the names seen. -/
structure Cursor where
  rest : List Token
  /-- The names of anchors with their numbers, the latest first. -/
  names : List (List Char × Nat)
  deriving Repr

namespace Cursor

def next? (c : Cursor) : Option Token := c.rest.head?

def skip (c : Cursor) : Cursor := { c with rest := c.rest.drop 1 }

def isAt (c : Cursor) (token : Token) : Bool := c.next? == some token

def isAtAny (c : Cursor) (tokens : List Token) : Bool := c.next?.any tokens.contains

def anchorOf? (c : Cursor) (name : List Char) : Option Nat := c.names.lookup name

/-- Gives a name the number of different names before it. -/
def declare (c : Cursor) (name : List Char) : Nat × Cursor :=
  let number := (c.names.map Prod.fst).eraseDups.length
  (number, { c with names := (name, number) :: c.names })

end Cursor

/-! ## Properties -/

/-- The meaning of tag handles, the first one taking precedence. -/
abbrev Handles := List (List Char × List Char)

/-- The full name of a tag, none if its handle is unknown. -/
def fullTag? (handles : Handles) (handle suffix : List Char) : Option (List Char) :=
  if handle.isEmpty then some suffix else (handles.lookup handle).map fun start => start ++ suffix

/-- An anchor's name and a tag as they stand before a node, in either order. -/
structure RawProperties where
  name : Option (List Char)
  tag : Option (List Char × List Char)

def rawProperties (c : Cursor) : RawProperties × Cursor :=
  match c.rest with
  | .anchor name :: .tag handle suffix :: rest =>
    (⟨some name, some (handle, suffix)⟩, { c with rest })
  | .tag handle suffix :: .anchor name :: rest =>
    (⟨some name, some (handle, suffix)⟩, { c with rest })
  | .anchor name :: rest => (⟨some name, none⟩, { c with rest })
  | .tag handle suffix :: rest => (⟨none, some (handle, suffix)⟩, { c with rest })
  | _ => (⟨none, none⟩, c)

/-- The properties before a node. -/
def takeProperties (handles : Handles) (c : Cursor) : Option (Properties × Cursor) := do
  let (raw, c) := rawProperties c
  let tag ← match raw.tag with
    | some (handle, suffix) => (fullTag? handles handle suffix).map some
    | none => some none
  return match raw.name with
    | some name =>
      let (number, c) := c.declare name
      (⟨some number, tag⟩, c)
    | none => (⟨none, tag⟩, c)

/-- A mark alone is no tag for a scalar. -/
def scalarProperties (p : Properties) : Properties :=
  if p.tag = some ['!'] then { p with tag := none } else p

/-! ## Nodes -/

/-- Which blocks may stand for a node. -/
inductive Context where
  /-- None: the node stands between brackets. -/
  | flow
  /-- Blocks that are indented. -/
  | block
  /-- As well a sequence that is not indented, which a field of a mapping may be. -/
  | field
  deriving DecidableEq, Repr

/-- A node of which only the properties are there. -/
def onlyProperties (p : Properties) (c : Cursor) : Option (Node × Cursor) :=
  if p.isSome then some (empty p, c) else none

/-- What `read` takes, or an empty node if one of the tokens `ends` follows. -/
def nodeUnless (ends : List Token) (read : Cursor → Option (Node × Cursor)) (c : Cursor) :
    Option (Node × Cursor) :=
  if c.isAtAny ends then some (empty .none, c) else read c

/-- The value of a field, which may be missing. -/
def fieldValue (ends : List Token) (read : Cursor → Option (Node × Cursor)) (c : Cursor) :
    Option (Node × Cursor) :=
  if c.isAt .value then nodeUnless ends read c.skip else some (empty .none, c)

/-- A field behind the token of its key. -/
def field (keyEnds valueEnds : List Token) (read : Cursor → Option (Node × Cursor)) (c : Cursor) :
    Option ((Node × Node) × Cursor) := do
  let (key, c) ← nodeUnless keyEnds read c
  let (value, c) ← fieldValue valueEnds read c
  return ((key, value), c)

/-- A mapping of one field as an item between brackets, behind the token of its key.  In place of
an empty key one token is passed over. -/
def pair (read : Cursor → Option (Node × Cursor)) (c : Cursor) : Option (Node × Cursor) := do
  let (key, c) ←
    if c.isAtAny [.value, .flowEntry, .flowSequenceEnd] then some (empty .none, c.skip) else read c
  let (value, c) ← fieldValue [.flowEntry, .flowSequenceEnd] read c
  return (.mapping .none [(key, value)], c)

/-- Passes over the comma in front of every item but the first. -/
def passComma (first : Bool) (c : Cursor) : Option Cursor :=
  if first then some c else if c.isAt .flowEntry then some c.skip else none

mutual

/-- A node. -/
def node (handles : Handles) : Nat → Context → Cursor → Option (Node × Cursor)
  | 0, _, _ => none
  | fuel + 1, context, c =>
    match c.next? with
    | some (.alias name) => (c.anchorOf? name).map fun anchor => (.alias anchor, c.skip)
    | _ =>
      match takeProperties handles c with
      | none => none
      | some (p, c) =>
        match c.next? with
        | some (.scalar plain text) => some (.scalar (scalarProperties p) plain text, c.skip)
        | some .flowSequenceStart => flowItems handles fuel p [] c.skip
        | some .flowMappingStart => flowFields handles fuel p [] c.skip
        | some .blockEntry =>
          if context = .field then looseItems handles fuel p [] c else onlyProperties p c
        | some .blockSequenceStart =>
          if context = .flow then onlyProperties p c else blockItems handles fuel p [] c.skip
        | some .blockMappingStart =>
          if context = .flow then onlyProperties p c else blockFields handles fuel p [] c.skip
        | _ => onlyProperties p c

/-- The items of a block up to its end. -/
def blockItems (handles : Handles) :
    Nat → Properties → List Node → Cursor → Option (Node × Cursor)
  | 0, _, _, _ => none
  | fuel + 1, p, seen, c =>
    match c.next? with
    | some .blockEntry =>
      match nodeUnless [.blockEntry, .blockEnd] (node handles fuel .block) c.skip with
      | none => none
      | some (item, c) => blockItems handles fuel p (item :: seen) c
    | some .blockEnd => some (.sequence p seen.reverse, c.skip)
    | _ => none

/-- The items of a sequence that is not indented, which ends with its last item. -/
def looseItems (handles : Handles) :
    Nat → Properties → List Node → Cursor → Option (Node × Cursor)
  | 0, _, _, _ => none
  | fuel + 1, p, seen, c =>
    if c.isAt .blockEntry then
      match nodeUnless [.blockEntry, .key, .value, .blockEnd] (node handles fuel .block)
          c.skip with
      | none => none
      | some (item, c) => looseItems handles fuel p (item :: seen) c
    else some (.sequence p seen.reverse, c)

/-- The fields of a block up to its end. -/
def blockFields (handles : Handles) :
    Nat → Properties → List (Node × Node) → Cursor → Option (Node × Cursor)
  | 0, _, _, _ => none
  | fuel + 1, p, seen, c =>
    match c.next? with
    | some .key =>
      let ends := [.key, .value, .blockEnd]
      match field ends ends (node handles fuel .field) c.skip with
      | none => none
      | some (entry, c) => blockFields handles fuel p (entry :: seen) c
    | some .blockEnd => some (.mapping p seen.reverse, c.skip)
    | _ => none

/-- The items between brackets. -/
def flowItems (handles : Handles) :
    Nat → Properties → List Node → Cursor → Option (Node × Cursor)
  | 0, _, _, _ => none
  | fuel + 1, p, seen, c =>
    if c.isAt .flowSequenceEnd then some (.sequence p seen.reverse, c.skip)
    else
      match passComma seen.isEmpty c with
      | none => none
      | some c =>
        if c.isAt .flowSequenceEnd then some (.sequence p seen.reverse, c.skip)
        else
          match if c.isAt .key then pair (node handles fuel .flow) c.skip
            else node handles fuel .flow c with
          | none => none
          | some (item, c) => flowItems handles fuel p (item :: seen) c

/-- The fields between braces.  A node without the token of a key is a key without a value. -/
def flowFields (handles : Handles) :
    Nat → Properties → List (Node × Node) → Cursor → Option (Node × Cursor)
  | 0, _, _, _ => none
  | fuel + 1, p, seen, c =>
    if c.isAt .flowMappingEnd then some (.mapping p seen.reverse, c.skip)
    else
      match passComma seen.isEmpty c with
      | none => none
      | some c =>
        if c.isAt .flowMappingEnd then some (.mapping p seen.reverse, c.skip)
        else
          match
            if c.isAt .key then
              field [.value, .flowEntry, .flowMappingEnd] [.flowEntry, .flowMappingEnd]
                (node handles fuel .flow) c.skip
            else (node handles fuel .flow c).map fun (key, c) => ((key, empty .none), c) with
          | none => none
          | some (entry, c) => flowFields handles fuel p (entry :: seen) c

end

/-! ## Documents -/

/-- What tag handles mean unless a directive says otherwise. -/
def defaultHandles : Handles :=
  [("!".toList, "!".toList), ("!!".toList, "tag:yaml.org,2002:".toList)]

/-- Whether texts of a version can be read. -/
def isReadable (major minor : Nat) : Bool := major = 1 && (minor = 1 || minor = 2)

/-- The handles that directives declare, and the tokens behind the directives.  There is at most one
version, and each handle is declared at most once. -/
def directives (versioned : Bool) (handles : Handles) : List Token → Option (Handles × List Token)
  | .versionDirective major minor :: rest =>
    if versioned || !isReadable major minor then none else directives true handles rest
  | .tagDirective handle start :: rest =>
    if (handles.lookup handle).isSome then none
    else directives versioned (handles ++ [(handle, start)]) rest
  | rest => some (handles, rest)

/-- The mark of a document's start and the directives before it, which the document may lack. -/
def documentStart (tokens : List Token) : Option (Handles × Bool × List Token) :=
  match directives false [] tokens with
  | none => none
  | some (handles, .documentStart :: rest) => some (handles ++ defaultHandles, true, rest)
  | some (_, rest) =>
    if rest.length = tokens.length then some (defaultHandles, false, rest) else none

/-- The root of the only document that the tokens make up.  A text without tokens is an empty
document. -/
def ofTokens? (tokens : List Token) : Option Node := do
  let (handles, marked, rest) ← documentStart tokens
  let c : Cursor := ⟨rest, []⟩
  if rest.isEmpty || (marked && c.isAt .documentEnd) then
    if rest.all (· == .documentEnd) then some (empty .none) else none
  else
    let (root, c) ← node handles (2 * tokens.length + 2) .block c
    if c.rest.all (· == .documentEnd) then some root else none

end Node

end Yaml

end Vetting
