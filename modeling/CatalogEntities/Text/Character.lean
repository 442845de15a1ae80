/-!
# `Text/Character.lean` — classes of characters, white space and digits

Three things are asked of a single character in this library: whether it belongs to a class that
Unicode defines, whether it is white space, and which digit it stands for. The answers are given
here once, so that trimming a default, dividing a line of a `.env` file and reading an escape in
JSON agree on them.

Character classes of Unicode consist of a few hundred intervals. They are stored as one ascending
list of *boundaries*: the set begins at the first, ends before the second, begins again at the
third, and so on. Membership of a code point is therefore the parity of the number of boundaries
at or below it, and no interval arithmetic is needed anywhere else.
-/

set_option autoImplicit false

namespace CatalogEntities.Text

/-! ## Classes -/

/-- **A set of code points**, given by the ascending list of the points where membership flips.
The order is not part of the structure, since the sets of this library are tables that are written
out: nothing builds one at run time. -/
structure CodeSet where
  boundaries : List Nat

/-- Whether an odd number of the leading boundaries is at or below `n`. The search stops at the
first boundary above `n`, which is why the list has to ascend. -/
def CodeSet.flips : List Nat → Nat → Bool
  | [], _ => false
  | b :: rest, n => if n < b then false else !flips rest n

/-- Whether a code point belongs to a set. It is asked for numbers and not for characters, so that
a table can be compared with the published one, which knows surrogates too. -/
def CodeSet.has (s : CodeSet) (n : Nat) : Bool := flips s.boundaries n

/-! ## White space

White space is the Unicode property of that name, not the four ASCII blanks. It decides what is
trimmed from a default expression before it is read as a number, and how a line of a `.env` file
is divided. -/

/-- **White space**: tabs and line ends, the plain and the no-break space, and the typographic
spaces and separators. The zero-width spaces are not among them, although they look like nothing:
Unicode counts them as format characters. -/
def whiteSpace : CodeSet :=
  ⟨[0x9, 0xE, 0x20, 0x21, 0x85, 0x86, 0xA0, 0xA1, 0x1680, 0x1681, 0x2000, 0x200B, 0x2028, 0x202A,
    0x202F, 0x2030, 0x205F, 0x2060, 0x3000, 0x3001]⟩

def isBlank (c : Char) : Bool := whiteSpace.has c.toNat

/-- The text without the white space it begins with. -/
def trimStart (cs : List Char) : List Char := cs.dropWhile isBlank

/-- The text without the white space it ends with. It is said through `reverse`, so that one lemma
on `dropWhile` serves both ends. -/
def trimEnd (cs : List Char) : List Char := (cs.reverse.dropWhile isBlank).reverse

/-- The text without white space at either end. A text of nothing but white space becomes empty,
whichever end is trimmed first. -/
def trim (cs : List Char) : List Char := trimEnd (trimStart cs)

/-! ## Digits -/

/-- The digit that a character stands for, in any base up to sixteen. The letters `a` to `f`, large
or small, stand for the digits from ten on; digits of other scripts stand for nothing here. -/
def hexValue? (c : Char) : Option Nat :=
  if c.isDigit then some (c.toNat - '0'.toNat)
  else if 'a' ≤ c ∧ c ≤ 'f' then some (c.toNat - 'a'.toNat + 10)
  else if 'A' ≤ c ∧ c ≤ 'F' then some (c.toNat - 'A'.toNat + 10)
  else none

/-- **The number that digits of a base denote**; there is at least one digit. No sign and no
separator is allowed, and the number has no bound: what fits is for the caller to say. -/
def readDigits? (base : Nat) (cs : List Char) : Option Nat :=
  if cs.isEmpty then none
  else
    (cs.mapM fun c => (hexValue? c).filter (· < base)).map fun ds =>
      ds.foldl (fun n d => base * n + d) 0

end CatalogEntities.Text
