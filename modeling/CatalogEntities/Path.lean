/-!
# `Path.lean` — paths as text

A path is text that slashes divide into segments. Joining and taking apart work on the text alone
and keep it as it is written as far as they can: doubled slashes and dots in the middle of a path
stay. Only at the end of a path are empty segments and single dots without meaning.

What a path leads to is the business of the file system. In particular nothing here resolves two
dots: `out/../x` is a path in the directory `out/..`, whether or not there is a directory `out`, and
a table with such a name has such a path in its report.
-/

set_option autoImplicit false

namespace CatalogEntities.Path

/-- The segments of a path; the first is empty if the path begins with a slash. -/
def segments (path : String) : List String := (path.toList.splitOn '/').map String.ofList

/-- The path of a list of segments. A single empty segment is the root. -/
def ofSegments : List String → String
  | [""] => "/"
  | segs => "/".intercalate segs

def isAbsolute (path : String) : Bool := path.toList.head? = some '/'

def endsWithSlash (path : String) : Bool := path.toList.getLast? = some '/'

/-- Whether a segment leads nowhere: an empty one, from two slashes in a row, or a single dot. -/
def isIdle (segment : String) : Bool := segment = "" || segment = "."

/-- The names on a path: its segments without the empty ones. -/
def names (path : String) : List String := (segments path).filter (· ≠ "")

/-- Segments without idle ones at the end; the first always stays. -/
def trimIdle : List String → List String
  | [] => []
  | first :: rest => first :: (rest.reverse.dropWhile isIdle).reverse

/-- **A name in a directory.** An absolute name replaces the directory; otherwise one slash stands
between the two, unless the directory is empty or ends with one. -/
def join (directory name : String) : String :=
  if isAbsolute name then name
  else if directory = "" ∨ endsWithSlash directory then directory ++ name
  else directory ++ "/" ++ name

/-- The last name of a path; none if the path is empty, the root, or ends in dots. -/
def fileName? (path : String) : Option String :=
  match (trimIdle (segments path)).getLast? with
  | some last => if isIdle last ∨ last = ".." then none else some last
  | none => none

/-- The path without its last name; none for the empty path and the root. -/
def parent? (path : String) : Option String :=
  if path = "" then none
  else
    match trimIdle (segments path) with
    | [""] => none
    | segs => some (ofSegments (trimIdle segs.dropLast))

/-- **The path with another last name**; a path without a last name gets one. The temporary file of
an entity file is named so, and stands in the same directory for that reason. -/
def withFileName (path name : String) : String :=
  match fileName? path with
  | some _ => join ((parent? path).getD path) name
  | none => join path name

end CatalogEntities.Path
