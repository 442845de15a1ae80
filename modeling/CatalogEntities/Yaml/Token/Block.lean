import CatalogEntities.Yaml.Cursor

/-!
# `Yaml/Token/Block.lean` — block scalars

A block scalar begins with a header line and consists of the lines below it that are indented deeper
than what it belongs to. How deep is found out from the first line that is not empty, unless the
header says so.

* A **literal** block keeps its lines. A **folded** block joins two lines with a space, unless one
  of them begins with a blank.
* The header also decides about the line ends behind the last line: one is kept, or none, or all.

The difficulty is that line ends are read before it is known what they are worth. So the reader
carries them along, those of the last line and those of the empty lines behind it apart, and decides
when it sees the next line or the end.
-/

set_option autoImplicit false

namespace CatalogEntities.Yaml

/-- **Which line ends at the end of a block are kept.** -/
inductive Chomping
  | strip
  | clip
  | keep
  deriving Repr, DecidableEq

/-- **The header of a block.** -/
structure BlockHeader where
  chomping : Chomping
  /-- How much deeper than its surroundings the block is indented, if that is said. -/
  increment : Option Nat

/-- The sign that says which line ends are kept, if there is one. -/
def chompingOf? : Char → Option Chomping
  | '-' => some .strip
  | '+' => some .keep
  | _ => none

/-- An indentation in one digit, which is not zero; none if there is no digit. -/
def takeIncrement (c : Cursor) : Option (Option Nat × Cursor) :=
  match c.next? with
  | some d =>
      if !d.isDigit then some (none, c)
      else if d = '0' then none
      else some (some (d.toNat - '0'.toNat), c.advance 1)
  | none => some (none, c)

/-- A sign, if there is one. -/
def takeChomping (c : Cursor) : Option Chomping × Cursor :=
  match c.next?.bind chompingOf? with
  | some chomping => (some chomping, c.advance 1)
  | none => (none, c)

/-- Reads the header: a sign and a digit, in either order, each of which may be missing. -/
def readHeader (c : Cursor) : Option (BlockHeader × Cursor) := do
  let (before, c) := takeChomping c
  let (increment, c) ← takeIncrement c
  let (after, c) :=
    if before.isNone && increment.isSome then takeChomping c else (none, c)
  let c ← c.finishLine?
  some (⟨(before.or after).getD .clip, increment⟩, c)

/-- Empty lines: their line ends, the deepest column that was seen, and the place behind them. An
indentation of zero is not known yet. A tab must not stand for indentation. -/
def emptyLines (indent : Nat) :
    Nat → Cursor → List Char → Nat → Option (List Char × Nat × Cursor)
  | 0, c, breaks, deepest => some (breaks, deepest, c)
  | fuel + 1, c, breaks, deepest =>
      let room := if indent = 0 then c.rest.length else indent - c.column
      let c := c.advance ((c.rest.take room).takeWhile (· = ' ')).length
      let deepest := max deepest c.column
      if (indent = 0 || c.column < indent) && c.isAt '\t' then none
      else if !c.sees isBreak then some (breaks, deepest, c)
      else
        let (text, c) := c.takeBreak
        emptyLines indent fuel c (breaks ++ text) deepest

/-- The lines of a block whose indentation is known. `before` is what was read, `last` the line end
behind it, `empties` those of the empty lines after it, and `blank` tells whether the line read
last began with a blank. -/
def blockLines (literal : Bool) (indent : Nat) :
    Nat → Cursor → List Char → List Char → List Char → Bool →
      Option (List Char × List Char × List Char × Cursor)
  | 0, c, before, last, empties, _ => some (before, last, empties, c)
  | fuel + 1, c, before, last, empties, blank =>
      if c.column ≠ indent || c.rest.isEmpty then some (before, last, empties, c)
      else
        let blankHere := c.sees isBlank
        -- a single line end between two lines is folded, unless one of them begins with a blank
        let joint :=
          if !literal && last = ['\n'] && !blank && !blankHere then
            (if empties.isEmpty then [' '] else []) ++ empties
          else last ++ empties
        let (line, c) := c.takeWhile (!isBreak ·)
        let (last, c) := c.takeBreak
        match emptyLines indent c.rest.length c [] 0 with
        | none => none
        | some (empties, _, c) =>
            blockLines literal indent fuel c (before ++ joint ++ line) last empties blankHere

def Chomping.apply (last empties : List Char) : Chomping → List Char
  | strip => []
  | clip => last
  | keep => last ++ empties

/-- **Reads a block scalar**, from behind its mark on, in surroundings of the given indentation.
Where the header is silent, the first line that is not empty sets the indentation, and empty lines
that reach deeper raise it. -/
def readBlock (literal : Bool) (outer : Int) (c : Cursor) : Option (List Char × Cursor) := do
  let (header, c) ← readHeader c
  let given := match header.increment with
    | some n => (max outer 0).toNat + n
    | none => 0
  let (empties, deepest, c) ← emptyLines given (c.rest.length + 1) c [] 0
  let indent := if given = 0 then max (max deepest (outer + 1).toNat) 1 else given
  let (text, last, empties, c) ←
    blockLines literal indent (c.rest.length + 1) c [] [] empties false
  some (text ++ header.chomping.apply last empties, c)

end CatalogEntities.Yaml
