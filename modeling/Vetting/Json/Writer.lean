import Vetting.Json.Basic
import Vetting.Number.Text

/-!
# Writing JSON

Two forms are written: `Json.compact` on one line without blanks, and `Json.pretty` with a line
for each member and two blanks for each level.  Only what must be escaped is escaped: the quote,
the backslash and the characters below the blank.
-/

namespace Vetting

namespace Json

/-- The character as it stands between quotes. -/
def escaped (c : Char) : List Char :=
  if c = '"' then ['\\', '"']
  else if c = '\\' then ['\\', '\\']
  else if c = '\x08' then ['\\', 'b']
  else if c = '\x0c' then ['\\', 'f']
  else if c = '\n' then ['\\', 'n']
  else if c = '\r' then ['\\', 'r']
  else if c = '\t' then ['\\', 't']
  else if c.toNat < 0x20 then
    ['\\', 'u', '0', '0', Nat.digitChar (c.toNat / 16), Nat.digitChar (c.toNat % 16)]
  else [c]

/-- A text between quotes. -/
def quoted (s : String) : String :=
  String.ofList ('"' :: s.toList.flatMap escaped ++ ['"'])

mutual

/-- One line without blanks. -/
def compact : Json → String
  | .null => "null"
  | .bool b => if b then "true" else "false"
  | .integer i => toString i
  | .float x => Layout.json.text x
  | .text s => quoted s
  | .array items => "[" ++ ",".intercalate (compactItems items) ++ "]"
  | .object fields => "\x7b" ++ ",".intercalate (compactFields fields) ++ "\x7d"

def compactItems : List Json → List String
  | [] => []
  | item :: rest => compact item :: compactItems rest

def compactFields : List (String × Json) → List String
  | [] => []
  | (key, item) :: rest => (quoted key ++ ":" ++ compact item) :: compactFields rest

end

/-- The start of a line that is `depth` levels deep. -/
def newline (depth : Nat) : String := String.ofList ('\n' :: List.replicate (2 * depth) ' ')

/-- Members on lines of their own between two brackets; nothing between them if there are none. -/
def block (opening closing : String) (depth : Nat) (members : List String) : String :=
  if members.isEmpty then opening ++ closing
  else
    opening ++ newline (depth + 1) ++ ("," ++ newline (depth + 1)).intercalate members ++
      newline depth ++ closing

mutual

/-- The lines of a value that stands `depth` levels deep. -/
def prettyAt (depth : Nat) : Json → String
  | .array items => block "[" "]" depth (prettyItems depth items)
  | .object fields => block "\x7b" "\x7d" depth (prettyFields depth fields)
  | .null => "null"
  | .bool b => if b then "true" else "false"
  | .integer i => toString i
  | .float x => Layout.json.text x
  | .text s => quoted s

def prettyItems (depth : Nat) : List Json → List String
  | [] => []
  | item :: rest => prettyAt (depth + 1) item :: prettyItems depth rest

def prettyFields (depth : Nat) : List (String × Json) → List String
  | [] => []
  | (key, item) :: rest =>
    (quoted key ++ ": " ++ prettyAt (depth + 1) item) :: prettyFields depth rest

end

/-- A line for each member. -/
def pretty (j : Json) : String := prettyAt 0 j

end Json

end Vetting
