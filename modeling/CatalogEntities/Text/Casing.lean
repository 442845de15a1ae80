import CatalogEntities.Text.CaseTable
import CatalogEntities.Text.CaseContext

/-!
# `Text/Casing.lean` — upper and lower case

Case mapping is Unicode's full mapping: one character may become several (`ß` is `SS` in upper
case). ASCII characters are answered first and without the tables, so that everything said about
ASCII names below is a statement about `Char.toUpper` and `Char.toLower`.

Two lower casings are needed. Names are lowered **character by character** (`lower`); text that is
compared as a whole is lowered **with the final sigma rule** (`lowerText`), where a `Σ` at the end
of a word becomes `ς`.
-/

set_option autoImplicit false

namespace CatalogEntities.Text

/-- The case mapping that a pair of tables describes: a listed expansion, else the run that has the
character, else the character itself. Expansions are asked first, so that a run may go over a
character that expands. -/
def mapCase (expansions : List (Nat × List Nat)) (runs : List CaseRun) (c : Char) : List Char :=
  match expansions.find? (·.1 == c.toNat) with
  | some (_, image) => image.map Char.ofNat
  | none =>
      match runs.find? (·.has c.toNat) with
      | some run => [Char.ofNat (run.image c.toNat)]
      | none => [c]

def upper (c : Char) : List Char :=
  if c.toNat < 0x80 then [c.toUpper] else mapCase upperExpansions upperRuns c

/-- Lower case of one character, wherever it stands. A capital sigma becomes the ordinary one, also
at the end of a word: this is the casing of names, in which a character is not told where it is. -/
def lower (c : Char) : List Char :=
  if c.toNat < 0x80 then [c.toLower] else mapCase lowerExpansions lowerRuns c

/-- Whether the text, read past its case-ignorable characters, goes on with a cased one. -/
def meetsCased (text : List Char) : Bool :=
  match text.dropWhile (caseIgnorable.has ·.toNat) with
  | c :: _ => cased.has c.toNat
  | [] => false

/-- Lower case of a text that stands after `before` (nearest character first). A `Σ` is final when a
cased character precedes it and none follows, both past characters that casing ignores. The text in
front is passed along in its own order from the letter backwards, so that one function looks in both
directions. -/
def lowerAfter : List Char → List Char → List Char
  | _, [] => []
  | before, c :: rest =>
      (if c = 'Σ' then
        [if meetsCased before && !meetsCased rest then 'ς' else 'σ']
       else lower c) ++ lowerAfter (c :: before) rest

/-- **Lower case of a whole text**, with the final sigma rule. -/
def lowerText (s : String) : String := String.ofList (lowerAfter [] s.toList)

/-! ## ASCII -/

theorem upper_of_ascii {c : Char} (h : c.toNat < 0x80) : upper c = [c.toUpper] := by
  simp [upper, h]

theorem lower_of_ascii {c : Char} (h : c.toNat < 0x80) : lower c = [c.toLower] := by
  simp [lower, h]

end CatalogEntities.Text
