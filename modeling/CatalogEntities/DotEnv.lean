import CatalogEntities.Dictionary
import CatalogEntities.DotEnv.Line
import CatalogEntities.FileSystem
import CatalogEntities.Text.Search

/-!
# `DotEnv.lean` — variables from a file

A file named `.env` in the working directory, or in one of the directories above it, sets variables
that are not set yet. Its lines are carried out one after the other: a value may refer to variables
that were set before, by the surroundings or by an earlier line, and of two assignments to one
variable the first counts.

So a file can add to the surroundings and cannot change them. That is what a deployment relies on
which sets its own variables beside a file that was left lying about, and it is not obvious from the
code: every line is carried out on variables that the lines before it have changed.
-/

set_option autoImplicit false

namespace CatalogEntities.DotEnv

abbrev Variables := Dictionary String

/-- **The value of a variable as the surroundings keep it.** They keep one text `name=value` for
each variable and look for one that begins with the name and an equals sign; the value is the rest.
So a name that holds an equals sign itself reaches into a value: if `A` is `b=c`, then `A=b` is `c`.
The empty name is never looked for. -/
def valueOf? (vars : Variables) (name : String) : Option String :=
  if name = "" then none
  else vars.entries.findSome? fun (key, value) =>
    Text.withoutBeginning? (name ++ "=") (key ++ "=" ++ value)

/-- Sets a variable, unless it is set. The value has been read by then, so a line that sets nothing
can still be malformed. -/
def assign (vars : Variables) (a : Assignment) : Variables :=
  if vars.contains a.name then vars else vars.insert a.name a.value

/-- Carries out one line: the assignment that it makes, if it makes one, with references answered by
the variables as they are. -/
def runLine (vars : Variables) (line : Except Fault (List Char)) : Except Fault Variables := do
  let assignment ← readLine (valueOf? vars) (← line)
  return (assignment.map (assign vars)).getD vars

/-- Carries out the lines of a file, up to the first fault. What was set by then is lost with it:
the variables of a file that is malformed are not used at all. -/
def runLines (vars : Variables) (lines : List (Option (List Char))) : Except Fault Variables :=
  (joinLines .complete [] lines).foldlM runLine vars

/-! ## Files -/

/-- Cuts behind every line feed, which stays with its line. It is asked for bytes in a file, and for
characters where a file is spoken of as a text. -/
def cutLines {α : Type} [DecidableEq α] (lineFeed : α) : List α → List (List α)
  | [] => []
  | x :: rest =>
      if x = lineFeed then [x] :: cutLines lineFeed rest
      else
        match cutLines lineFeed rest with
        | [] => [[x]]
        | line :: lines => (x :: line) :: lines

/-- The bytes that mark a text as encoded with its bytes in order. -/
def byteOrderMark : List UInt8 := [0xEF, 0xBB, 0xBF]

/-- Bytes without the mark in front. -/
def withoutMark (bytes : List UInt8) : List UInt8 :=
  if byteOrderMark.isPrefixOf bytes then bytes.drop 3 else bytes

/-- **Sets variables from the bytes of a file.** Lines are cut before they are decoded, so bytes
that are no text are a fault of the line that they stand in, and a fault in an earlier line comes
before it. -/
def load (vars : Variables) (bytes : ByteArray) : Except Fault Variables :=
  runLines vars ((cutLines 10 (withoutMark bytes.toList)).map fun line =>
    (String.fromUTF8? ⟨line.toArray⟩).map String.toList)

def loadText (vars : Variables) (text : String) : Except Fault Variables :=
  load vars text.toByteArray

def fileName : String := ".env"

/-- The bytes of the file in a directory, or else in the nearest one above it. A directory of that
name is passed over as if nothing were there. -/
def findAbove (fs : FileSystem) : Nat → Location → Option ByteArray
  | depth, loc =>
      match fs.node? (loc ++ [fileName]), depth with
      | some (.file bytes), _ => some bytes
      | _, 0 => none
      | _, depth + 1 => findAbove fs depth loc.dropLast

/-- **The bytes of the file** that applies to the working directory, if there is one. -/
def find? (fs : FileSystem) : Option ByteArray := findAbove fs fs.working.length fs.working

/-- **The variables with those of the file** (`load_dotenv`). Where there is no file the variables
are as they were, which is no fault. -/
def loadFrom (fs : FileSystem) (vars : Variables) : Except Fault Variables :=
  match find? fs with
  | some bytes => load vars bytes
  | none => .ok vars

end CatalogEntities.DotEnv
