import CatalogEntities.Json.Number
import CatalogEntities.Text.Character

/-!
# `Json/Reader.lean` — reading structured data

The reader takes exactly the standard grammar: one value with white space around its tokens, no
trailing commas, no comments, no control characters inside strings, and surrogates only in pairs.

Every reader answers what it read and the rest of the text. Values nest, so reading a value is
given fuel; the length of the text is always enough, since each nested value begins at least one
character further on.
-/

set_option autoImplicit false

namespace CatalogEntities.Json

def isSpace (c : Char) : Bool := c = ' ' || c = '\t' || c = '\n' || c = '\r'

/-- The text without the white space in front. -/
def skip (cs : List Char) : List Char := cs.dropWhile isSpace

/-! ## Strings -/

def readUnit : List Char → Option (Nat × List Char)
  | a :: b :: c :: d :: rest =>
      match Text.hexValue? a, Text.hexValue? b, Text.hexValue? c, Text.hexValue? d with
      | some a, some b, some c, some d => some (a * 4096 + b * 256 + c * 16 + d, rest)
      | _, _, _, _ => none
  | _ => none

/-- The character behind a backslash and a letter other than `u`. -/
def shortEscape? : Char → Option Char
  | '"' => some '"'
  | '\\' => some '\\'
  | '/' => some '/'
  | 'b' => some '\x08'
  | 'f' => some '\x0c'
  | 'n' => some '\n'
  | 'r' => some '\r'
  | 't' => some '\t'
  | _ => none

/-- The second half of a pair of surrogates, with its escape in front. -/
def readTrailing : List Char → Option (Nat × List Char)
  | '\\' :: 'u' :: rest =>
      match readUnit rest with
      | some (low, rest) => if 0xDC00 ≤ low ∧ low < 0xE000 then some (low, rest) else none
      | none => none
  | _ => none

/-- The character that a `\u` escape stands for, read from behind the `u`. -/
def readEscaped (cs : List Char) : Option (Char × List Char) :=
  match readUnit cs with
  | none => none
  | some (unit, rest) =>
      if 0xD800 ≤ unit ∧ unit < 0xDC00 then
        (readTrailing rest).map fun (low, rest) =>
          (Char.ofNat (0x10000 + (unit - 0xD800) * 1024 + (low - 0xDC00)), rest)
      else if 0xDC00 ≤ unit ∧ unit < 0xE000 then none
      else some (Char.ofNat unit, rest)

/-- The characters of a string up to its closing quote, and what follows it. -/
def readChars : Nat → List Char → Option (List Char × List Char)
  | 0, _ => none
  | _, [] => none
  | _ + 1, '"' :: rest => some ([], rest)
  | fuel + 1, '\\' :: 'u' :: rest =>
      match readEscaped rest with
      | some (c, rest) => (readChars fuel rest).map fun (cs, rest) => (c :: cs, rest)
      | none => none
  | fuel + 1, '\\' :: c :: rest =>
      match shortEscape? c with
      | some c => (readChars fuel rest).map fun (cs, rest) => (c :: cs, rest)
      | none => none
  | fuel + 1, c :: rest =>
      -- a backslash only gets here if nothing stands behind it
      if c.toNat < 0x20 ∨ c = '\\' then none
      else (readChars fuel rest).map fun (cs, rest) => (c :: cs, rest)

/-- A string, read from behind its opening quote. -/
def readString (cs : List Char) : Option (String × List Char) :=
  (readChars (cs.length + 1) cs).map fun (chars, rest) => (String.ofList chars, rest)

/-! ## Values -/

mutual

/-- A value; white space in front of it is skipped. -/
def readValue : Nat → List Char → Option (Json × List Char)
  | 0, _ => none
  | fuel + 1, cs =>
      match skip cs with
      | 'n' :: 'u' :: 'l' :: 'l' :: rest => some (null, rest)
      | 't' :: 'r' :: 'u' :: 'e' :: rest => some (bool true, rest)
      | 'f' :: 'a' :: 'l' :: 's' :: 'e' :: rest => some (bool false, rest)
      | '"' :: rest => (readString rest).map fun (s, rest) => (string s, rest)
      | '[' :: rest =>
          match skip rest with
          | ']' :: rest => some (array [], rest)
          | rest => (readItems fuel rest).map fun (items, rest) => (array items, rest)
      | '\x7b' :: rest =>
          match skip rest with
          | '\x7d' :: rest => some (object [], rest)
          | rest => (readMembers fuel rest).map fun (fields, rest) => (object fields, rest)
      | rest => readNumber rest

/-- The items of an array up to its closing bracket; there is at least one. -/
def readItems : Nat → List Char → Option (List Json × List Char)
  | 0, _ => none
  | fuel + 1, cs =>
      match readValue fuel cs with
      | none => none
      | some (item, rest) =>
          match skip rest with
          | ']' :: rest => some ([item], rest)
          | ',' :: rest => (readItems fuel rest).map fun (items, rest) => (item :: items, rest)
          | _ => none

/-- The members of an object up to its closing brace; there is at least one. -/
def readMembers : Nat → List Char → Option (List (String × Json) × List Char)
  | 0, _ => none
  | fuel + 1, cs =>
      match skip cs with
      | '"' :: rest =>
          match readString rest with
          | none => none
          | some (name, rest) =>
              match skip rest with
              | ':' :: rest =>
                  match readValue fuel rest with
                  | none => none
                  | some (value, rest) =>
                      match skip rest with
                      | '\x7d' :: rest => some ([(name, value)], rest)
                      | ',' :: rest =>
                          (readMembers fuel rest).map fun (fields, rest) =>
                            ((name, value) :: fields, rest)
                      | _ => none
              | _ => none
      | _ => none

end

/-- **Reads a text** that holds one value. -/
def read? (text : String) : Option Json :=
  match readValue (2 * text.length + 2) text.toList with
  | some (value, rest) => if (skip rest).isEmpty then some value else none
  | none => none

end CatalogEntities.Json
