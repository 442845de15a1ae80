import CatalogEntities.Json
import CatalogEntities.Text.Shown

/-!
# `Json/Writer.lean` — the text of structured data

Two layouts: **compact**, without any white space, and **pretty**, with one item or member a line
and two spaces of indentation for each level. An empty array or object stays on its line. Members
are written in the order in which they stand.

A report is printed in the pretty layout and read back by whoever wants to use it, so that what the
writer escapes is just what the reader needs escaped; everything else goes out as it is, whatever
script it is written in.
-/

set_option autoImplicit false

namespace CatalogEntities.Json

open CatalogEntities.Text

/-- A character inside a string: quotes, backslashes and control characters are escaped, and
nothing else is. -/
def escapeChar (c : Char) : String :=
  if c = '"' then "\\\""
  else if c = '\\' then "\\\\"
  else if c = '\n' then "\\n"
  else if c = '\r' then "\\r"
  else if c = '\t' then "\\t"
  else if c = '\x08' then "\\b"
  else if c = '\x0c' then "\\f"
  else if c.toNat < 0x20 then
    "\\u00" ++ String.ofList [hexDigit (c.toNat / 16), hexDigit (c.toNat % 16)]
  else String.singleton c

def quote (s : String) : String := "\"" ++ String.join (s.toList.map escapeChar) ++ "\""

/-- The text of a value that holds no others. -/
def scalarText : Json → String
  | null => "null"
  | bool b => if b then "true" else "false"
  | integer n => toString n
  | float d => d.text .compact
  | string s => quote s
  | array _ => "[]"
  | object _ => "\x7b\x7d"

mutual

/-- **The compact text of a value.** -/
def compact : Json → String
  | array items => "[" ++ ",".intercalate (compactItems items) ++ "]"
  | object fields => "\x7b" ++ ",".intercalate (compactMembers fields) ++ "\x7d"
  | scalar => scalarText scalar

def compactItems : List Json → List String
  | [] => []
  | item :: rest => compact item :: compactItems rest

def compactMembers : List (String × Json) → List String
  | [] => []
  | (name, value) :: rest => (quote name ++ ":" ++ compact value) :: compactMembers rest

end

def newLine (level : Nat) : String := "\n" ++ String.ofList (List.replicate (2 * level) ' ')

/-- Entries of a level between brackets, one a line. -/
def block (opening closing : String) (level : Nat) (entries : List String) : String :=
  if entries.isEmpty then opening ++ closing
  else
    opening ++ ",".intercalate (entries.map (newLine (level + 1) ++ ·)) ++ newLine level ++ closing

mutual

def prettyAt (level : Nat) : Json → String
  | array items => block "[" "]" level (prettyItems (level + 1) items)
  | object fields => block "\x7b" "\x7d" level (prettyMembers (level + 1) fields)
  | scalar => scalarText scalar

def prettyItems (level : Nat) : List Json → List String
  | [] => []
  | item :: rest => prettyAt level item :: prettyItems level rest

def prettyMembers (level : Nat) : List (String × Json) → List String
  | [] => []
  | (name, value) :: rest =>
      (quote name ++ ": " ++ prettyAt level value) :: prettyMembers level rest

end

/-- **The pretty text of a value.** -/
def pretty (value : Json) : String := prettyAt 0 value

end CatalogEntities.Json
