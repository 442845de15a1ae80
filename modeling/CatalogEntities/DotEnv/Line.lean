import CatalogEntities.DotEnv.Value
import CatalogEntities.SystemFault
import CatalogEntities.Text.Character

/-!
# `DotEnv/Line.lean` — the lines of a file of variables

A line assigns a value to a variable, or is empty but for a comment. A value in quotes may run over
several lines of the file, so lines are put together first: a line is complete when no quote is
open at its end.

That is decided by a simpler rule than the value itself is read by: quotes and backslashes count
wherever they stand, also before the value, and a line that ends in a blank without a line end is
never complete.

A line that cannot be read is shown with the place where reading stopped. Where in the text that
is, and which text is shown, depends on what was being read: the whole line while looking for the
name, the value alone while reading the value.
-/

set_option autoImplicit false

namespace CatalogEntities.DotEnv

open CatalogEntities.Text

/-! ## Faults -/

/-- **What is wrong with a file of variables.** The first fault ends the reading of the file, so
there is one of them at most and no list. -/
inductive Fault
  /-- A line is malformed: what is shown of it, and the place in it. -/
  | line (text : String) (index : Nat)
  /-- A line is no text, or the file could not be read to its end. -/
  | system (cause : SystemFault)
  deriving Repr, DecidableEq

/-- **The message of a fault.** The place counts bytes and not characters, from the first byte of
the text that is shown. -/
def Fault.message : Fault → String
  | line text index =>
      "Error parsing line: '" ++ text ++ "', error at line index: " ++ toString index
  | system cause => cause.message

/-- The length of a text in bytes. -/
def byteLength (cs : List Char) : Nat := (String.ofList cs).utf8ByteSize

/-! ## Lines of a file, put together -/

/-- **What is open at a place in a line**, for the rule that puts lines together. It is not the
state in which a value is read: a quote counts here also in front of an equals sign. -/
inductive LineState
  | complete
  /-- Behind a blank, where a comment may begin. -/
  | blank
  | escaped
  /-- Between single quotes, perhaps behind a backslash. -/
  | strong (escaped : Bool)
  /-- Between double quotes, perhaps behind a backslash. -/
  | weak (escaped : Bool)
  deriving Repr, DecidableEq

/-- What a character opens where nothing is open. -/
def LineState.opened (c : Char) : LineState :=
  if c = '\\' then escaped else if c = '"' then weak false else if c = '\'' then strong false
  else complete

/-- What is open behind one more character. -/
def LineState.next (c : Char) : LineState → LineState
  | complete => if isBlank c && c ≠ '\n' && c ≠ '\r' then blank else opened c
  | blank => opened c
  | escaped => complete
  | strong true => strong false
  | strong false => if c = '\\' then strong true else if c = '\'' then complete else strong false
  | weak true => weak false
  | weak false => if c = '\\' then weak true else if c = '"' then complete else weak false

/-- **How a line of the file ends**: with something open or nothing, or with a comment, in front of
which stand the given characters. -/
inductive LineEnd
  | state (s : LineState)
  | comment (before : List Char)
  deriving Repr, DecidableEq

/-- How a line ends that begins with something open or nothing. A comment is only seen behind a
blank, and what stands behind its sign is not looked at, so a quote in a comment opens nothing. -/
def LineState.atEnd : LineState → List Char → LineEnd
  | s, [] => .state s
  | s, c :: rest =>
      if s = blank ∧ c = '#' then .comment []
      else
        match atEnd (s.next c) rest with
        | .state s => .state s
        | .comment before => .comment (c :: before)

/-- A line without its line end. -/
def withoutLineEnd (cs : List Char) : List Char :=
  match cs.reverse with
  | '\n' :: '\r' :: rest => rest.reverse
  | '\n' :: rest => rest.reverse
  | _ => cs

/-- **Puts the lines of a file together**: `before` is what belongs to the line that is not yet
complete. A line of the file that is no text is none. After a fault there are no more lines. -/
def joinLines : LineState → List Char → List (Option (List Char)) →
    List (Except Fault (List Char))
  | s, before, [] =>
      if s = .complete then [] else [.error (.line (String.ofList before) (byteLength before))]
  | _, _, none :: _ => [.error (.system .notUtf8)]
  | s, before, some line :: rest =>
      if (trimStart (before ++ line)).head? = some '#' then .ok [] :: joinLines .complete [] rest
      else
        match s.atEnd line with
        | .comment front => .ok (before ++ front) :: joinLines .complete [] rest
        | .state .complete =>
            .ok (withoutLineEnd (before ++ line)) :: joinLines .complete [] rest
        | .state s => joinLines s (before ++ line) rest

/-! ## One line -/

/-- **An assignment.** -/
structure Assignment where
  name : String
  value : String
  deriving Repr, DecidableEq

def startsName (c : Char) : Bool := c.isAlpha || c = '_'

def continuesName (c : Char) : Bool := c.isAlphanum || c = '_' || c = '.'

/-- A name, and what follows it and its blanks; none if no name stands here. -/
def takeName (cs : List Char) : Option (List Char × List Char) :=
  if cs.head?.any startsName then
    some (cs.takeWhile continuesName, trimStart (cs.dropWhile continuesName))
  else none

/-- Whether nothing but a comment follows. -/
def isOver (cs : List Char) : Bool := cs.head?.all (· = '#')

/-- The word that may stand before an assignment. -/
def exportWord : List Char := "export".toList

/-- **The name that is assigned to and what follows its equals sign**, or where one of the two is
missing. The word before an assignment is a name itself if an equals sign follows it. On failure the
rest of the line is handed back, from which the place of the fault is counted. -/
def takeTarget (cs : List Char) : Except (List Char) (List Char × List Char) :=
  match takeName cs with
  | none => .error cs
  | some (name, '=' :: rest) => .ok (name, rest)
  | some (name, rest) =>
      if name ≠ exportWord then .error rest
      else
        match takeName rest with
        | none => .error rest
        | some (name, '=' :: rest) => .ok (name, rest)
        | some (_, rest) => .error rest

/-- A fault in a value, shown with the value. -/
def valueFault (value : List Char) : ValueFault → Fault
  | .atChar index => .line (String.ofList value) index
  | .atEnd => .line (String.ofList value) (byteLength value - 1)

/-- **Reads a line**: an assignment, or none. White space around the line, the name, the equals sign
and the value is dropped, and a value may be missing altogether, which makes it empty. -/
def readLine (lookup : String → Option String) (line : List Char) :
    Except Fault (Option Assignment) :=
  let text := trimEnd line
  let body := trimStart text
  if isOver body then .ok none
  else
    match takeTarget body with
    | .error rest => .error (.line (String.ofList line) (byteLength text - byteLength rest))
    | .ok (name, rest) =>
        let value := trimStart rest
        if isOver value then .ok (some ⟨String.ofList name, ""⟩)
        else
          match readValue lookup value with
          | .error fault => .error (valueFault value fault)
          | .ok value => .ok (some ⟨String.ofList name, String.ofList value⟩)

end CatalogEntities.DotEnv
