/-!
# `Yaml/Cursor.lean` — a place in the text of a document

The layout of a document matters, so reading it means to know at every place the line and the
column. A cursor is such a place together with the text behind it. A line ends with a line feed, a
carriage return, both together, or one of three typographic line ends.

Columns are counted in characters and the index in bytes, because the rules of the format mix the
two: indentation compares columns, while the length of a key is limited in bytes.
-/

set_option autoImplicit false

namespace CatalogEntities.Yaml

/-! ## Kinds of characters -/

def isBreak (c : Char) : Bool :=
  c = '\n' || c = '\r' || c = '\x85' || c = '\u2028' || c = '\u2029'

def isBlank (c : Char) : Bool := c = ' ' || c = '\t'

def isGap (c : Char) : Bool := isBlank c || isBreak c

/-- What the names of anchors, tags and directives are made of. -/
def isWord (c : Char) : Bool := c.isAlphanum || c = '_' || c = '-'

/-- What may stand in a document at all. -/
def isAllowed (c : Char) : Bool :=
  let n := c.toNat
  n = 0x9 || n = 0xA || n = 0xD || (0x20 ≤ n && n ≤ 0x7E) || n = 0x85 || (0xA0 ≤ n && n ≤ 0xD7FF)
    || (0xE000 ≤ n && n ≤ 0xFFFD) || 0x10000 ≤ n

/-- What marks a text as encoded with its bytes in order. -/
def byteOrderMark : Char := '\uFEFF'

/-! ## Cursors -/

/-- The number of bytes that a text takes up. -/
def byteCount (cs : List Char) : Nat := cs.foldl (fun n c => n + c.utf8Size) 0

/-- **A place in a text**, with what is still to be read. The index counts bytes from the beginning
of the text; lines and columns count from zero. -/
structure Cursor where
  rest : List Char
  index : Nat
  line : Nat
  column : Nat

namespace Cursor

def start (text : List Char) : Cursor := ⟨text, 0, 0, 0⟩

def next? (c : Cursor) : Option Char := c.rest.head?

def sees (c : Cursor) (test : Char → Bool) : Bool := c.rest.head?.any test

def isAt (c : Cursor) (char : Char) : Bool := c.rest.head? = some char

/-- Whether nothing follows on the line after `n` characters, or a blank does. -/
def gapAfter (c : Cursor) (n : Nat) : Bool := (c.rest[n]?).all isGap

/-- Whether nothing but a line end, or nothing at all, follows. -/
def endsLine (c : Cursor) : Bool := c.rest.head?.all isBreak

/-- The place after `n` characters of the same line. Line ends must be taken with `takeBreak`
instead, or the column goes on counting. -/
def advance (c : Cursor) (n : Nat) : Cursor :=
  { c with
    rest := c.rest.drop n
    index := c.index + byteCount (c.rest.take n)
    column := c.column + n }

/-- The characters of the line that pass a test, and the place behind them. -/
def takeWhile (c : Cursor) (test : Char → Bool) : List Char × Cursor :=
  let run := c.rest.takeWhile test
  (run, c.advance run.length)

/-- The place behind the characters of the line that pass a test. -/
def skipWhile (c : Cursor) (test : Char → Bool) : Cursor := (c.takeWhile test).2

def skipComment (c : Cursor) : Cursor :=
  let c := c.skipWhile isBlank
  if c.isAt '#' then c.skipWhile (!isBreak ·) else c

/-- A line end and the place behind it: the two plain ones count as line feed, alone or together,
and so does the third; the other two keep themselves. -/
def takeBreak (c : Cursor) : List Char × Cursor :=
  match c.rest with
  | '\r' :: '\n' :: rest => (['\n'], ⟨rest, c.index + 2, c.line + 1, 0⟩)
  | b :: rest =>
      if b = '\u2028' ∨ b = '\u2029' then ([b], ⟨rest, c.index + b.utf8Size, c.line + 1, 0⟩)
      else if isBreak b then (['\n'], ⟨rest, c.index + b.utf8Size, c.line + 1, 0⟩)
      else ([], c)
  | [] => ([], c)

/-- The place behind a line end, if one follows. -/
def skipBreak (c : Cursor) : Cursor := c.takeBreak.2

/-- Whether a line begins here that separates documents: three hyphens or three points. -/
def atSeparator (c : Cursor) : Bool :=
  c.column = 0 && (c.rest.take 3 = ['-', '-', '-'] || c.rest.take 3 = ['.', '.', '.'])
    && c.gapAfter 3

/-- What follows blanks and a comment, if the line ends there: the beginning of the next line. -/
def finishLine? (c : Cursor) : Option Cursor :=
  let c := c.skipComment
  if c.endsLine then some c.skipBreak else none

end Cursor

end CatalogEntities.Yaml
