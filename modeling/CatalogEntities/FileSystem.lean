import CatalogEntities.Path
import CatalogEntities.SystemFault

/-!
# `FileSystem.lean` — directories and files

A file system says what stands at each location: nothing, a directory, or a file with its bytes. A
location is the list of names from the root down; paths that do not begin at the root begin at the
working directory. There are no links, so every location has one path of names without dots.

Every operation looks its path up name by name. All names before the last must be directories; what
the last may be is up to the operation. Refusals are those of the operating system, in the order in
which it makes them.

An operation is a function from a machine to a machine or a fault. It happens as a whole: no other
operation sees a file half-written here. Where a statement is about an operation that is cut off, it
says so itself and lets the write end early. Ownership and permissions are left out, and so is a
device that is full; machines that refuse for such reasons are spoken of as machines that may refuse
anything.
-/

set_option autoImplicit false

namespace CatalogEntities

/-- A place in a file system: the names from the root down. It is told apart from a path, which is
text and may lead to one place in many ways. -/
abbrev Location := List String

/-- **What stands at a location.** -/
inductive Node
  | file (bytes : ByteArray)
  | directory
  deriving Inhabited

/-- Two nodes can be told apart, files by their bytes. -/
instance : DecidableEq Node
  | .directory, .directory => .isTrue rfl
  | .directory, .file _ => .isFalse Node.noConfusion
  | .file _, .directory => .isFalse Node.noConfusion
  | .file a, .file b =>
      match ByteArray.instDecidableEq a b with
      | .isTrue h => .isTrue (h ▸ rfl)
      | .isFalse h => .isFalse fun e => h (Node.file.inj e)

/-- **A file system.** Of several entries for one location the first counts, so an entry list is
never invalid. What matters of it is what `node?` answers; two file systems that answer alike may
have their entries in different orders, and statements compare them location by location. -/
structure FileSystem where
  /-- Where paths begin that do not begin at the root. -/
  working : Location
  entries : List (Location × Node)

namespace FileSystem

/-- What every machine holds: the null device, which reads as an empty file. -/
def machine : List (Location × Node) :=
  [(["dev"], .directory), (["dev", "null"], .file .empty)]

/-- A machine with an empty working directory of one name below the root. -/
def scratch (name : String) : FileSystem := ⟨[name], ([name], .directory) :: machine⟩

/-- **What stands at a location.** The root is always a directory, whatever the entries say. -/
def node? (fs : FileSystem) (loc : Location) : Option Node :=
  if loc = [] then some .directory else fs.entries.lookup loc

/-- The file system without what stands at a location. -/
def erase (fs : FileSystem) (loc : Location) : FileSystem :=
  { fs with entries := fs.entries.filter (·.1 ≠ loc) }

/-- The file system with a node at a location, in place of what stood there. -/
def put (fs : FileSystem) (loc : Location) (node : Node) : FileSystem :=
  { fs with entries := (loc, node) :: (fs.erase loc).entries }

/-! ## Looking a path up -/

/-- The greatest length of a name in bytes. -/
def nameLimit : Nat := 255

/-- The length in bytes from which on a path is refused. -/
def pathLimit : Nat := 4096

/-- A name that is too long is refused before anything is looked for under it. -/
def checkName (name : String) : Except SystemFault Unit :=
  if name.utf8ByteSize ≤ nameLimit then .ok () else .error .nameTooLong

/-- Follows names from a directory; each must lead to a directory again. Two dots lead back to the
directory above, and at the root they lead nowhere else. They undo a name only once that name has
led to a directory, so `missing/..` is refused where the text of the path would say otherwise. -/
def walk (fs : FileSystem) : Location → List String → Except SystemFault Location
  | loc, [] => .ok loc
  | loc, name :: rest =>
      if name = "." then walk fs loc rest
      else if name = ".." then walk fs loc.dropLast rest
      else
        match checkName name, fs.node? (loc ++ [name]) with
        | .error fault, _ => .error fault
        | .ok (), none => .error .notFound
        | .ok (), some (.file _) => .error .notDirectory
        | .ok (), some .directory => walk fs (loc ++ [name]) rest

/-- **Where a path ends.** -/
inductive Ending
  /-- At a name in a directory, which something may stand under or not; the path may insist by a
  slash at its end that it be a directory. -/
  | entry (directory : Location) (name : String) (slashed : Bool)
  /-- At a directory that is reached by dots, or at the root. -/
  | dots (directory : Location)
  deriving Repr, DecidableEq

/-- The location at which a path ends, where something may stand or not. -/
def Ending.location : Ending → Location
  | entry directory name _ => directory ++ [name]
  | dots directory => directory

/-- **Looks a path up** to its last name. Every operation begins so, which makes one lemma about
`resolve` a lemma about all of them. -/
def resolve (fs : FileSystem) (path : String) : Except SystemFault Ending :=
  if path.toList.contains '\x00' then .error .nulInPath
  else if path = "" then .error .notFound
  else if pathLimit ≤ path.utf8ByteSize then .error .nameTooLong
  else
    let start := if Path.isAbsolute path then [] else fs.working
    let names := Path.names path
    match names.getLast? with
    | none => .ok (.dots start)
    | some last =>
        match fs.walk start names.dropLast with
        | .error fault => .error fault
        | .ok directory =>
            -- dots at the end name a directory, and so leave nothing to be made or written
            if last = "." then .ok (.dots directory)
            else if last = ".." then .ok (.dots directory.dropLast)
            else
              match checkName last with
              | .error fault => .error fault
              | .ok () => .ok (.entry directory last (Path.endsWithSlash path))

/-! ## Questions -/

def isDirectory (fs : FileSystem) (path : String) : Bool :=
  match fs.resolve path with
  | .ok ending => fs.node? ending.location = some .directory
  | .error _ => false

/-- **The bytes of a file.** A path that insists on a directory is refused last, after it is clear
that a file stands there. -/
def readFile (fs : FileSystem) (path : String) : Except SystemFault ByteArray :=
  match fs.resolve path with
  | .error fault => .error fault
  | .ok (.dots _) => .error .isDirectory
  | .ok (.entry directory name slashed) =>
      match fs.node? (directory ++ [name]) with
      | none => .error .notFound
      | some .directory => .error .isDirectory
      | some (.file bytes) => if slashed then .error .notDirectory else .ok bytes

/-- The text of a file, which must be UTF-8. -/
def readText (fs : FileSystem) (path : String) : Except SystemFault String :=
  match fs.readFile path with
  | .error fault => .error fault
  | .ok bytes =>
      match String.fromUTF8? bytes with
      | some text => .ok text
      | none => .error .notUtf8

/-! ## Changes -/

/-- **Writes a file**, in place of what it held. The directory that it is written to must be there
already: making it is another operation. -/
def writeFile (fs : FileSystem) (path : String) (bytes : ByteArray) :
    Except SystemFault FileSystem :=
  match fs.resolve path with
  | .error fault => .error fault
  | .ok (.dots _) => .error .isDirectory
  | .ok (.entry directory name slashed) =>
      if slashed then .error .isDirectory
      else if fs.node? (directory ++ [name]) = some .directory then .error .isDirectory
      else .ok (fs.put (directory ++ [name]) (.file bytes))

/-- **Removes a file.** Directories are not removed so. -/
def removeFile (fs : FileSystem) (path : String) : Except SystemFault FileSystem :=
  match fs.resolve path with
  | .error fault => .error fault
  | .ok (.dots _) => .error .isDirectory
  | .ok (.entry directory name slashed) =>
      match fs.node? (directory ++ [name]) with
      | none => .error .notFound
      | some .directory => .error .isDirectory
      | some (.file _) =>
          if slashed then .error .notDirectory else .ok (fs.erase (directory ++ [name]))

/-- **Renames a file**, in place of a file that has the new name. There is no moment at which the
new name has neither file, nor one at which both names have one: this is what writing by way of a
temporary file rests on. Renaming a file to itself removes and puts the same file back. -/
def renameFile (fs : FileSystem) (source target : String) : Except SystemFault FileSystem :=
  match fs.resolve source, fs.resolve target with
  | .error fault, _ => .error fault
  | .ok _, .error fault => .error fault
  | .ok (.dots _), .ok _ => .error .busy
  | .ok (.entry ..), .ok (.dots _) => .error .busy
  | .ok (.entry directory name slashed), .ok (.entry directory' name' slashed') =>
      match fs.node? (directory ++ [name]) with
      | none => .error .notFound
      | some .directory => .error .isDirectory
      | some (.file bytes) =>
          -- a slash at the end asks for a directory, and what is renamed is a file
          if slashed || slashed' then .error .notDirectory
          else if fs.node? (directory' ++ [name']) = some .directory then .error .isDirectory
          else
            .ok ((fs.erase (directory ++ [name])).put (directory' ++ [name']) (.file bytes))

/-- Makes a directory, in a directory that exists. -/
def makeDirectory (fs : FileSystem) (path : String) : Except SystemFault FileSystem :=
  match fs.resolve path with
  | .error fault => .error fault
  | .ok (.dots _) => .error .alreadyExists
  | .ok (.entry directory name _) =>
      match fs.node? (directory ++ [name]) with
      | some _ => .error .alreadyExists
      | none => .ok (fs.put (directory ++ [name]) .directory)

/-- A refusal to make a directory does not matter where a directory is. It is looked up once more to
find out, since a directory can also be refused for another reason than its being there. -/
def unlessDirectory (fs : FileSystem) (path : String) (fault : SystemFault) :
    FileSystem × Except SystemFault Unit :=
  (fs, if fs.isDirectory path then .ok () else .error fault)

/-- Makes a directory and the missing ones above it; the fuel bounds how many. The directory itself
is tried first and those above it only if something on the way is missing, so an existing directory
costs one lookup and a path that leads over a file is refused where the file is. -/
def makeDirectoriesWithin (fs : FileSystem) (path : String) :
    Nat → FileSystem × Except SystemFault Unit
  | 0 => (fs, .error .notFound)
  | fuel + 1 =>
      if path = "" then (fs, .ok ())
      else
        match fs.makeDirectory path with
        | .ok fs => (fs, .ok ())
        | .error fault =>
            if fault = .notFound then
              match Path.parent? path with
              | none => (fs, .error fault)
              | some parent =>
                  match fs.makeDirectoriesWithin parent fuel with
                  | (fs, .error fault) => (fs, .error fault)
                  | (fs, .ok ()) =>
                      -- a path that ends in dots is there as soon as the one above it is
                      match fs.makeDirectory path with
                      | .ok fs => (fs, .ok ())
                      | .error fault => fs.unlessDirectory path fault
            else fs.unlessDirectory path fault

/-- **Makes a directory and the missing ones above it.** What was made before a refusal stays. The
fuel is never used up: every parent of a path is shorter than the path. -/
def makeDirectories (fs : FileSystem) (path : String) : FileSystem × Except SystemFault Unit :=
  fs.makeDirectoriesWithin path (path.length + 1)

/-- Writes a file, and makes the missing directories above it. -/
def writeFileBelow (fs : FileSystem) (path : String) (bytes : ByteArray) :
    Except SystemFault FileSystem :=
  match fs.makeDirectories ((Path.parent? path).getD "") with
  | (_, .error fault) => .error fault
  | (fs, .ok ()) => fs.writeFile path bytes

/-! ## Listing -/

/-- The path of a location below the working directory; a directory ends with a slash. -/
def listed? (fs : FileSystem) : Location × Node → Option String
  | (loc, node) =>
      if fs.working.isPrefixOf loc && loc ≠ fs.working then
        let path := "/".intercalate (loc.drop fs.working.length)
        some (if node = .directory then path ++ "/" else path)
      else none

/-- **Everything below the working directory**, in order. -/
def listing (fs : FileSystem) : List String := (fs.entries.filterMap fs.listed?).mergeSort

/-! ## What stands where after a change -/

theorem node?_erase (fs : FileSystem) (loc other : Location) :
    (fs.erase loc).node? other =
      if other = [] then some .directory else if other = loc then none else fs.node? other := by
  unfold node? erase
  by_cases h : other = []
  · simp [h]
  · simp only [h, if_false]
    induction fs.entries with
    | nil => simp
    | cons e rest ih =>
      obtain ⟨l, n⟩ := e
      by_cases hl : l = loc
      · subst hl
        rw [List.filter_cons_of_neg (by simp)]
        by_cases ho : other = l
        · simp only [ho, if_true] at ih ⊢
          exact ih
        · simp only [ho, if_false] at ih ⊢
          rw [ih, List.lookup_cons, beq_eq_false_iff_ne.2 ho]
      · rw [List.filter_cons_of_pos (by simpa using hl)]
        by_cases ho : other = loc
        · have hne : other ≠ l := fun he => hl (he ▸ ho)
          simp only [ho, if_true] at ih ⊢
          rw [List.lookup_cons, beq_eq_false_iff_ne.2 (ho ▸ hne)]
          exact ih
        · simp only [ho, if_false] at ih ⊢
          rw [List.lookup_cons, List.lookup_cons, ih]

/-- **A change at one location** is a change nowhere else. -/
theorem node?_put (fs : FileSystem) {loc : Location} (hloc : loc ≠ []) (node : Node)
    (other : Location) :
    (fs.put loc node).node? other = if other = loc then some node else fs.node? other := by
  by_cases ho : other = loc
  · subst ho
    simp [node?, put, hloc]
  · have := node?_erase fs loc other
    by_cases hnil : other = []
    · simp [node?, hnil, hloc.symm]
    · simp only [node?, put, hnil, ho, if_false] at this ⊢
      rw [List.lookup_cons, beq_eq_false_iff_ne.2 ho]
      exact this

end FileSystem

end CatalogEntities
