/-!
# `Text/Quoted.lean` — quoted literals, written and read

A literal is its value between two quote characters, with a backslash in front of every quote of
that kind and of every backslash. Nothing else is escaped: a line break stays a line break.

`readBody` is the reader that goes with it. It starts after an opening quote, lets a backslash
take the next character as it is, and stops at the first quote that is not taken. `readBody_escape`
says that it stops exactly where the value ends, whatever follows, so a value can never close its
own literal.
-/

set_option autoImplicit false

namespace CatalogEntities.Text

/-- **A value with the quote `q` and the backslash escaped** (`escape`). A character is escaped on
its own account, wherever it stands, so the escaped text of two values put together is that of each
put together. -/
def escape (q : Char) (value : List Char) : List Char :=
  value.flatMap fun c => if c = '\\' ∨ c = q then ['\\', c] else [c]

/-- **A quoted literal**: the escaped value between two quotes. -/
def quoted (q : Char) (value : List Char) : List Char := q :: escape q value ++ [q]

/-- **Reads a literal from behind its opening quote**: the value and what follows the closing quote,
or nothing if the literal is not closed. A backslash is followed by any character here, also by one
that would not have been escaped; the reader accepts more than is ever written. -/
def readBody (q : Char) : List Char → Option (List Char × List Char)
  | [] => none
  | ['\\'] => none
  | '\\' :: c :: rest => (readBody q rest).map fun (value, rest) => (c :: value, rest)
  | c :: rest =>
      if c = q then some ([], rest)
      else (readBody q rest).map fun (value, rest) => (c :: value, rest)

def readQuoted (q : Char) : List Char → Option (List Char × List Char)
  | c :: rest => if c = q then readBody q rest else none
  | [] => none

/-- **A literal in single quotes** (`single_quoted`), for names, labels and options. -/
def singleQuoted (value : String) : String := String.ofList (quoted '\'' value.toList)

/-- **A literal in double quotes** (`double_quoted`), for expressions, in which single quotes are
common. -/
def doubleQuoted (value : String) : String := String.ofList (quoted '"' value.toList)

/-! ## Reading back -/

theorem escape_nil (q : Char) : escape q [] = [] := rfl

theorem escape_cons (q c : Char) (value : List Char) :
    escape q (c :: value) =
      (if c = '\\' ∨ c = q then ['\\', c] else [c]) ++ escape q value := rfl

/-- **The reader stops where the value ends**, provided the quote is not itself the backslash. The
rest is left free, so that this can be used of a literal in the middle of a line, and of the first
of several literals in a row. -/
theorem readBody_escape {q : Char} (hq : q ≠ '\\') (value rest : List Char) :
    readBody q (escape q value ++ q :: rest) = some (value, rest) := by
  induction value with
  | nil => simp [escape_nil, readBody, hq]
  | cons c value ih =>
    rw [escape_cons]
    -- an escaped character comes with its backslash, and the reader takes the two together
    by_cases hc : c = '\\' ∨ c = q
    · simp [hc, readBody, ih]
    · have hb : c ≠ '\\' := fun h => hc (Or.inl h)
      have hne : c ≠ q := fun h => hc (Or.inr h)
      simp [readBody, hb, hne, ih]

end CatalogEntities.Text
