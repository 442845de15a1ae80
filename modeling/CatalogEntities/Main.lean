import CatalogEntities.CommandLine.Printed
import CatalogEntities.Report
import Std.Time.DateTime.Timestamp

/-!
# `Main.lean` — the program

The outermost layer. The words of the command line, the variables and the files that a command may
read are gathered; `Invocation.execute` does the work; and what it comes to is printed.

The library describes what is asked of a database and what is made of the answers, and brings no
client that talks to a server. So the program finds every server out of reach.

Everything that could be wrong in an interesting way is a function below this layer and is spoken of
there. What is left here is input and output, in an order that the functions have decided.
-/

set_option autoImplicit false

namespace CatalogEntities.CommandLine

def now : IO Instant := do
  return .ofNanoseconds (← Std.Time.Timestamp.now).toNanosecondsSinceUnixEpoch.val

/-- Adds what stands under a path to a file system, if it can be read. -/
def addPath (fs : FileSystem) (path : String) : IO FileSystem := do
  let whole := (← IO.currentDir) / path
  if ← whole.isDir then return (fs.makeDirectories path).1
  try return (fs.writeFileBelow path (← IO.FS.readBinFile whole)).toOption.getD fs
  catch _ => return fs

/-- The files that a command may read: its settings file, and files of variables in the working
directory and above. -/
def gatherFiles (i : Invocation) : IO FileSystem := do
  let working := Path.names (← IO.currentDir).toString
  let directories := (List.range (working.length + 1)).map fun n => working.take n
  let root := "/" ++ "/".intercalate working
  let paths := i.settingsPath.toList
    ++ directories.map fun names => "/" ++ "/".intercalate (names ++ [DotEnv.fileName])
  paths.foldlM addPath ((FileSystem.mk working []).makeDirectories root).1

/-- The names in a text that may be names of variables. -/
def namesIn (text : List Char) : List String :=
  let runs := text.splitOnP (fun c => !DotEnv.continuesName c)
  let shorter := text.splitOnP (fun c => !(c.isAlphanum || c = '_'))
  (runs ++ shorter).map String.ofList

/-- The variables that settings or a file of variables may refer to. -/
def gatherVariables (fs : FileSystem) : IO DotEnv.Variables := do
  let text := (DotEnv.find? fs >>= String.fromUTF8?).getD ""
  let pairs ← (SettingsVariable.all ++ namesIn text.toList).filterMapM fun name => do
    if name = "" then return none
    return (← IO.getEnv name).map fun value => (name, value)
  return .ofList pairs

def perform (i : Invocation) : IO UInt32 := do
  let started ← now
  let files ← gatherFiles i
  let e := i.execute ⟨files, ← gatherVariables files, .isolated files⟩
  let runId := RunIdentifier.ofBytes (← IO.getRandomBytes 16).toList
  let stamp := RunStamp.between runId started (← now)
  let timing : Timing := ⟨stamp, stamp.milliseconds.toNat⟩
  let errors ← IO.getStderr
  errors.putStr (i.logText timing e.events)
  match e.result with
  | .ok p => IO.print (p.text i.outputJson timing)
  | .error f => errors.putStr (f.detailed ++ "\n")
  return e.exitCode.toUInt32

end CatalogEntities.CommandLine

open CatalogEntities.CommandLine in
/-- **The program.** -/
def main (words : List String) : IO UInt32 := do
  match Invocation.ofWords (← IO.getEnv settingsPathVariable) words with
  | .ok i => perform i
  | .error .help =>
      IO.print usageText
      return 0
  | .error .version =>
      IO.println versionText
      return 0
  | .error .misuse =>
      (← IO.getStderr).putStr usageText
      return 2
