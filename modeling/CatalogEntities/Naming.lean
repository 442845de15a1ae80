import CatalogEntities.Text.Casing
import CatalogEntities.Text.Quoted

/-!
# `Naming.lean` — the names of classes, files and properties

A table becomes a class, a class becomes a file, a column becomes a property. The class name is
the table's name in capitalised words: it is split at underscores, every word gets an upper case
first character and a lower case remainder, and the words are joined again. Empty words, from
doubled or outer underscores, vanish in the joining.

Nothing here checks that the class name is an identifier; `isIdentifier` is only asked about
property names, which are quoted when they are not.

A name is made from another name alone, never from the other names of a run. So different tables may
get one class name, and whether they do can be told from the two names; what is done about it is
decided where files are claimed.
-/

set_option autoImplicit false

namespace CatalogEntities.Naming

open CatalogEntities.Text

/-- A word with an upper case first character. One character may become several, `ß` for one, and
the remainder is lowered character by character, so a sigma at its end stays the ordinary one. -/
def capitalise : List Char → List Char
  | [] => []
  | c :: rest => upper c ++ rest.flatMap lower

/-- The characters of a class name. An empty word has no characters to give, which is how doubled
underscores vanish without being looked for. -/
def classChars (table : List Char) : List Char := (table.splitOn '_').flatMap capitalise

/-- **The class name of a table** (`type_name`). -/
def className (table : String) : String := String.ofList (classChars table.toList)

/-- **The file name of a table's entity** (`entity_file_name`): its class name and the suffix.
Tables share a file name exactly if they share a class name (`fileName_eq_iff`), so the suffix plays
no part in who gets a file. -/
def fileName (table suffix : String) : String := className table ++ suffix

/-- What may begin an identifier. -/
def startsIdentifier (c : Char) : Bool := c.isAlpha || c = '_' || c = '$'

/-- What an identifier may go on with. -/
def continuesIdentifier (c : Char) : Bool := c.isAlphanum || c = '_' || c = '$'

/-- Whether a name can stand unquoted: ASCII letters, digits, `_` and `$`, not a digit first. This
is stricter than the language is, where letters of all scripts may stand; quoting more than is
needed changes the text of a class and not its meaning. -/
def isIdentifier : List Char → Bool
  | [] => false
  | c :: rest => startsIdentifier c && rest.all continuesIdentifier

/-- **The key of a property** (`property_key`): its name, between single quotes unless it is an
identifier. -/
def propertyKey (name : String) : String :=
  if isIdentifier name.toList then name else singleQuoted name

/-! ## Words -/

theorem classChars_nil : classChars [] = [] := rfl

/-- An underscore only separates: the class name of a joined name is the class names joined. -/
theorem classChars_append_underscore (a b : List Char) :
    classChars (a ++ '_' :: b) = classChars a ++ classChars b := by
  rw [classChars, List.splitOn_append_cons_self, List.flatMap_append]
  rfl

/-- Tables have one file name if they have one class, whatever the suffix is. -/
theorem fileName_eq_iff {a b suffix : String} :
    fileName a suffix = fileName b suffix ↔ className a = className b := by
  refine ⟨fun h => ?_, fun h => by rw [fileName, fileName, h]⟩
  have hchars := congrArg String.toList h
  rw [fileName, fileName, String.toList_append, String.toList_append] at hchars
  exact String.toList_injective (List.append_cancel_right hchars)

end CatalogEntities.Naming
