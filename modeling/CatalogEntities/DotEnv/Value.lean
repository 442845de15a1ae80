import CatalogEntities.Text.Alphanumeric

/-!
# `DotEnv/Value.lean` — the value of an assignment

A value is text with quotes, escapes and references to other variables. Between single quotes
everything stands for itself; between double quotes escapes and references work as outside of
them, and blanks are kept. Outside of quotes a blank ends the value, and only a comment may follow.

A reference is a dollar sign with a name of letters and digits, or with any name between braces.
The character behind a name without braces is taken as it is, whatever it would mean elsewhere.
-/

set_option autoImplicit false

namespace CatalogEntities.DotEnv

/-- **What is being read.** Where it matters, `inQuotes` tells whether this is between double
quotes. The names of references are collected in the state, since a variable is looked up only when
its name is over. -/
inductive Reading
  | text (inQuotes : Bool)
  | verbatim
  | escaped (inQuotes : Bool)
  /-- Behind a dollar sign: the name so far. -/
  | reference (inQuotes : Bool) (name : List Char)
  /-- Between the braces behind a dollar sign: the name so far. -/
  | braced (inQuotes : Bool) (name : List Char)
  | finished
  deriving Repr, DecidableEq

namespace Reading

/-- Whether a value must not end here: quotes or braces are open. -/
def isOpen : Reading → Bool
  | text q | escaped q | reference q _ => q
  | verbatim | braced .. => true
  | finished => false

end Reading

/-- What a character means behind a backslash; all others must not stand there. -/
def escape? : Char → Option Char
  | '\\' => some '\\'
  | '\'' => some '\''
  | '"' => some '"'
  | '$' => some '$'
  | ' ' => some ' '
  | 'n' => some '\n'
  | _ => none

/-- The value of a variable; nothing if it is not set. -/
def valueOf (lookup : String → Option String) (name : List Char) : List Char :=
  ((lookup (String.ofList name)).getD "").toList

/-- **Reads one character**: what is being read next, and what the value gains. None if the
character must not stand here. Whether it may does not depend on any variable, which is why a file
is well-formed or not without regard to the surroundings. -/
def readChar (lookup : String → Option String) (c : Char) :
    Reading → Option (Reading × List Char)
  | .finished => if c = ' ' || c = '\t' then some (.finished, []) else none
  | .escaped q => (escape? c).map fun d => (.text q, [d])
  | .verbatim => some (if c = '\'' then (.text false, []) else (.verbatim, [c]))
  | .reference q name =>
      if Text.isAlphanumeric c then some (.reference q (name ++ [c]), [])
      else if c = '{' && name.isEmpty then some (.braced q [], [])
      else if c = '$' then some (.reference q [], valueOf lookup name)
      -- what ends a name is taken as it is, even a quote or a backslash
      else some (.text q, valueOf lookup name ++ [c])
  | .braced q name =>
      if c = '}' then some (.text q, valueOf lookup name) else some (.braced q (name ++ [c]), [])
  | .text q =>
      if c = '$' then some (.reference q [], [])
      else if c = '\\' then some (.escaped q, [])
      else if c = '"' then some (.text (!q), [])
      -- between double quotes nothing else means more than itself
      else if q then some (.text q, [c])
      else if c = '\'' then some (.verbatim, [])
      else if c = ' ' || c = '\t' then some (.finished, [])
      else some (.text q, [c])

/-- What the value gains at its end: a reference without braces may end with it. -/
def readEnd (lookup : String → Option String) : Reading → List Char
  | .reference _ name => valueOf lookup name
  | _ => []

inductive ValueFault
  | atChar (index : Nat)
  /-- At the end, with quotes or braces open. -/
  | atEnd
  deriving Repr, DecidableEq

/-- The rest of a value, from a character on. -/
def readRest (lookup : String → Option String) :
    Nat → Reading → List Char → Except ValueFault (List Char)
  | _, reading, [] => if reading.isOpen then .error .atEnd else .ok (readEnd lookup reading)
  | index, reading, c :: rest =>
      if reading = .finished ∧ c = '#' then .ok []
      else
        match readChar lookup c reading with
        | none => .error (.atChar index)
        | some (reading, gained) =>
            (readRest lookup (index + 1) reading rest).map (gained ++ ·)

/-- **Reads a value.** -/
def readValue (lookup : String → Option String) (cs : List Char) :
    Except ValueFault (List Char) :=
  readRest lookup 0 (.text false) cs

end CatalogEntities.DotEnv
