import CatalogEntities.Decimal.Basic
import CatalogEntities.Text.Character
import CatalogEntities.Text.Search

/-!
# `DefaultValue.lean` — what kind of text a column default is

The catalog reports a default as the SQL text it was declared with. The text is sorted once: it
is a literal that the entity can carry as it stands, or an expression that only the database can
evaluate. The tests are tried in order and look at the text alone, so `'a' || 'b'` counts as a
string for beginning and ending with a quote.

Nothing here parses SQL. A default that is sorted wrongly is still carried word for word, since the
kind only decides between two ways of writing the same text; what becomes of it then is a question
about the entity, and is answered there.
-/

set_option autoImplicit false

namespace CatalogEntities

open CatalogEntities.Text

/-- **The kinds of defaults**, in the order in which a text is tested for them. -/
inductive DefaultKind
  /-- A text between single quotes, with the quotes. -/
  | string
  /-- A decimal number, finite in double precision. -/
  | number
  | boolean
  /-- A text with a cast in it, wherever that is. -/
  | typedCast
  /-- Anything else, for the most part calls of functions. -/
  | expression
  deriving Repr, DecidableEq

/-- Whether a default of this kind can be written into the entity as it stands. -/
def DefaultKind.isLiteral : DefaultKind → Bool
  | .string | .number | .boolean => true
  | .typedCast | .expression => false

/-- **A default with its kind.** The text is kept as it came, white space included. -/
structure DefaultValue where
  kind : DefaultKind
  raw : String
  deriving Repr, DecidableEq

namespace DefaultValue

def sequenceMarker : String := "nextval"

def castMarker : String := "::"

/-- Whether a text begins and ends with two different single quotes (`is_quoted_string`). What
stands between them is not looked at: quotes in the middle, doubled or not, make no difference. -/
def isQuotedText (raw : List Char) : Bool :=
  2 ≤ raw.length && raw.head? = some '\'' && raw.getLast? = some '\''

/-- Whether a text, white space around it aside, is a decimal of finite size (`is_number`). Size is
that of double precision, as the entity's reader will have it: a decimal that rounds to infinity is
no number. -/
def isNumber (raw : List Char) : Bool :=
  match Decimal.read? (trim raw) with
  | some d => d.isFinite
  | none => false

/-- **Sorts a default text** (`classify`). A number is looked for before a truth value, and a cast
only after both, so `'1'::text` is a cast for not ending with a quote. -/
def classify (raw : String) : DefaultValue :=
  -- only the number is looked for without the white space around it
  if isQuotedText raw.toList then ⟨.string, raw⟩
  else if isNumber raw.toList then ⟨.number, raw⟩
  else if raw = "true" ∨ raw = "false" then ⟨.boolean, raw⟩
  else if mentions raw castMarker then ⟨.typedCast, raw⟩
  else ⟨.expression, raw⟩

/-- **The default that a plain column keeps** (`plain_default`): sequence defaults belong to the key
and are dropped. The word is looked for anywhere in the text, also in a quoted one. -/
def ofPlainColumn (raw : Option String) : Option DefaultValue :=
  raw.bind fun text => if mentions text sequenceMarker then none else some (classify text)

/-- Sorting never changes the text. -/
theorem raw_classify (raw : String) : (classify raw).raw = raw := by
  unfold classify
  repeat' split
  all_goals rfl

end DefaultValue

end CatalogEntities
