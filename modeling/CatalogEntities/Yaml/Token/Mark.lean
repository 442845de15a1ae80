import CatalogEntities.Decimal.Basic
import CatalogEntities.Text.Character
import CatalogEntities.Yaml.Cursor
import CatalogEntities.Yaml.Token

/-!
# `Yaml/Token/Mark.lean` — anchors, tags and directives

The marks that name things. Anchors and references are words. A tag is a handle with a suffix, or
stands between angle brackets; its suffix may hold bytes in hexadecimal. Directives have lines of
their own, of which only the version and tag handles are known.

A tag is only ever compared with tags that are known. So bytes that encode no character, or not in
the shortest way, are all read as one character that no known tag has; and a tag ends at a byte of
zero, whatever follows it.
-/

set_option autoImplicit false

namespace CatalogEntities.Yaml

/-! ## Anchors -/

/-- What may follow the name of an anchor directly. -/
def endsAnchor (c : Cursor) : Bool :=
  c.rest.head?.all fun d => isGap d || "?:,]\x7d%@`".toList.contains d

/-- The name of an anchor or of a reference to one, read from its mark on. -/
def readAnchor (c : Cursor) : Option (String × Cursor) :=
  let (name, c) := (c.advance 1).takeWhile isWord
  if name.isEmpty || !endsAnchor c then none else some (String.ofList name, c)

/-! ## Tags -/

/-- What may stand in a tag, besides bytes in hexadecimal. -/
def isTagChar (verbatim : Bool) (c : Char) : Bool :=
  isWord c || ";/?:@&=+$.!~*'()".toList.contains c || (verbatim && ",[]".toList.contains c)

def readByte : List Char → Option (Nat × List Char)
  | '%' :: a :: b :: rest =>
      match Text.hexValue? a, Text.hexValue? b with
      | some a, some b => some (16 * a + b, rest)
      | _, _ => none
  | _ => none

/-- The number of further bytes of a character after its first, and the bits that the first
contributes. -/
def leadingByte (b : Nat) : Option (Nat × Nat) :=
  if b < 0x80 then some (0, b)
  else if 0xC0 ≤ b ∧ b < 0xE0 then some (1, b - 0xC0)
  else if 0xE0 ≤ b ∧ b < 0xF0 then some (2, b - 0xE0)
  else if 0xF0 ≤ b ∧ b < 0xF8 then some (3, b - 0xF0)
  else none

/-- The further bytes of a character, onto the bits read so far. -/
def trailingBytes : Nat → Nat → List Char → Option (Nat × List Char)
  | 0, bits, rest => some (bits, rest)
  | n + 1, bits, rest =>
      match readByte rest with
      | some (b, rest) =>
          if 0x80 ≤ b ∧ b < 0xC0 then trailingBytes n (64 * bits + (b - 0x80)) rest else none
      | none => none

/-- What bytes that are no character are read as. -/
def replacement : Char := '\uFFFD'

/-- A character whose bytes are written in hexadecimal. -/
def readEscapedChar (cs : List Char) : Option (Char × List Char) :=
  match readByte cs with
  | none => none
  | some (b, rest) =>
      match leadingByte b with
      | none => none
      | some (n, bits) =>
          (trailingBytes n bits rest).map fun (bits, rest) =>
            let char := Char.ofNat bits
            -- a character in more bytes than it takes is none
            (if bits.isValidChar && char.utf8Size = n + 1 then char else replacement, rest)

/-- The characters of a tag, and the place behind them. -/
def tagChars (verbatim : Bool) : Nat → Cursor → Option (List Char × Cursor)
  | 0, c => some ([], c)
  | fuel + 1, c =>
      match c.next? with
      | none => some ([], c)
      | some d =>
          if d = '%' then
            match readEscapedChar c.rest with
            | none => none
            | some (char, rest) =>
                (tagChars verbatim fuel (c.advance (c.rest.length - rest.length))).map
                  fun (text, c) => (char :: text, c)
          else if isTagChar verbatim d then
            (tagChars verbatim fuel (c.advance 1)).map fun (text, c) => (d :: text, c)
          else some ([], c)

/-- The text of a tag behind what was read of it; both together must not be empty. -/
def readTagText (verbatim : Bool) (read : List Char) (c : Cursor) : Option (List Char × Cursor) :=
  match tagChars verbatim c.rest.length c with
  | none => none
  | some (text, c) =>
      if read.isEmpty && text.isEmpty then none
      -- what was read begins with the mark of the tag, and nothing is kept behind a zero
      else some ((read.drop 1 ++ text).takeWhile (· ≠ '\x00'), c)

/-- A handle: an exclamation mark, and a word with another one, if there is one. What looks like a
handle without its second mark is the beginning of a suffix. -/
def readHandle (c : Cursor) : List Char × Cursor :=
  let (word, c) := (c.advance 1).takeWhile isWord
  if c.isAt '!' then ('!' :: word ++ ['!'], c.advance 1) else ('!' :: word, c)

/-- Whether a handle is complete: it has both its marks. -/
def isHandle (handle : List Char) : Bool := 1 < handle.length && handle.getLast? = some '!'

/-- The parts of a tag, without the check of what follows it. -/
def readTagParts (c : Cursor) : Option (Token × Cursor) :=
  if c.rest[1]? = some '<' then
    match readTagText true [] (c.advance 2) with
    | some (text, c) =>
        if c.isAt '>' then some (.tag "" (String.ofList text), c.advance 1) else none
    | none => none
  else
    let (handle, c) := readHandle c
    if isHandle handle then
      (readTagText false [] c).map fun (text, c) =>
        (.tag (String.ofList handle) (String.ofList text), c)
    else
      (readTagText false handle c).map fun (text, c) =>
        (if text.isEmpty then .tag "" "!" else .tag "!" (String.ofList text), c)

/-- **Reads a tag**, from its mark on. A blank must follow, or a comma between brackets, so that a
tag never runs into what it belongs to. -/
def readTag (inFlow : Bool) (c : Cursor) : Option (Token × Cursor) :=
  match readTagParts c with
  | some (token, c) =>
      if c.gapAfter 0 || (inFlow && c.isAt ',') then some (token, c) else none
  | none => none

/-! ## Directives -/

/-- A part of a version: at most nine digits. -/
def readVersionPart (c : Cursor) : Option (Nat × Cursor) :=
  let (digits, c) := c.takeWhile Char.isDigit
  if digits.isEmpty || 9 < digits.length then none else some (Decimal.ofDigits digits, c)

def readVersion (c : Cursor) : Option (Token × Cursor) :=
  match readVersionPart (c.skipWhile isBlank) with
  | none => none
  | some (major, c) =>
      if !c.isAt '.' then none
      else
        (readVersionPart (c.advance 1)).map fun (minor, c) => (.versionDirective major minor, c)

/-- The value of a tag directive: a handle and what it stands for. -/
def readTagDirective (c : Cursor) : Option (Token × Cursor) :=
  let c := c.skipWhile isBlank
  if !c.isAt '!' then none
  else
    let (handle, c) := readHandle c
    if !(handle = ['!'] || isHandle handle) || !c.sees isBlank then none
    else
      match readTagText true [] (c.skipWhile isBlank) with
      | none => none
      | some (text, c) =>
          if c.gapAfter 0 then some (.tagDirective (String.ofList handle) (String.ofList text), c)
          else none

/-- **Reads a directive**, from its mark to the end of its line. A directive of another name makes
the text malformed. -/
def readDirective (c : Cursor) : Option (Token × Cursor) := do
  let (name, c) := (c.advance 1).takeWhile isWord
  if name.isEmpty || !c.gapAfter 0 then none
  else
    let (token, c) ←
      if name = "YAML".toList then readVersion c
      else if name = "TAG".toList then readTagDirective c
      else none
    some (token, ← c.finishLine?)

end CatalogEntities.Yaml
