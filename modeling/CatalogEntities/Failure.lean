import CatalogEntities.Database.Fault
import CatalogEntities.Database.Query
import CatalogEntities.Json.Decode
import CatalogEntities.Settings.Fault
import CatalogEntities.Yaml.Fault

/-!
# `Failure.lean` — why a run ends early

A failure is one of seven kinds, each with its cause. Its message is one line, its detailed text
adds the chain of causes from the outside in, and its exit code tells which stage of a run it
belongs to.

The kind is chosen where the failure happens, and not by what went wrong there. A server that
refuses a query is one thing when the tables are listed and another when a table is described, and
so the two end a program with different codes although the server gave the same answer.
-/

set_option autoImplicit false

namespace CatalogEntities

/-- **A failure.** The kinds are the variants of the program's `GenerateError`. A failure holds its
cause as data, so that two failures are equal exactly if they would be told in the same words. -/
inductive Failure
  | settings (fault : SettingsFault)
  | yaml (fault : Yaml.Fault)
  /-- The database cannot be reached, or cannot list its tables. -/
  | connection (fault : DatabaseFault)
  | catalogQuery (query : TableQuery) (table : String) (fault : DatabaseFault)
  /-- A file, or the directory for the files, cannot be written. -/
  | fileWrite (path : String) (cause : SystemFault)
  | io (cause : SystemFault)
  | json (fault : Shape.Fault)
  deriving Repr, DecidableEq

namespace Failure

/-- The code with which a program ends that fails so (`exit_code`). Settings count together in
whatever form they are written, and codes are not one for each kind: what remains shares the last.
-/
def exitCode : Failure → UInt8
  | settings _ | yaml _ => 1
  | connection _ => 2
  | catalogQuery .. => 3
  | fileWrite .. => 4
  | io _ | json _ => 7

/-- **The message of a failure.** It ends with the message of the cause, so a reader who sees one
line only is told the reason too; `causes` then says it again, one cause a line. -/
def message : Failure → String
  | settings fault => "Configuration error: " ++ fault.message
  | yaml fault => "YAML error: " ++ fault.message
  | connection fault => "Database connection error: " ++ fault.message
  | catalogQuery query table fault =>
      "Catalog query '" ++ query.name ++ "' failed for table " ++ table ++ ": " ++ fault.message
  | fileWrite path cause => "Failed to write entity file " ++ path ++ ": " ++ cause.message
  | io cause => "IO error: " ++ cause.message
  | json fault => "JSON error: " ++ fault.message Json.wording

/-- The chain of causes, from the outside in. Faulty settings have none: their fault is all there is
to say, and the message has said it. -/
def causes : Failure → List String
  | settings _ => []
  | yaml fault => [fault.message]
  | connection fault | catalogQuery _ _ fault => fault.chain
  | fileWrite _ cause | io cause => [cause.message]
  | json fault => [fault.message Json.wording]

/-- The causes as numbered paragraphs, the first with the given number. -/
def numbered : Nat → List String → String
  | _, [] => ""
  | n, cause :: rest =>
      "\nCaused by:\n  " ++ toString n ++ ": " ++ cause ++ numbered (n + 1) rest

/-- **The message with its causes** (`format_detailed`). -/
def detailed (f : Failure) : String := "Error: " ++ f.message ++ "\n" ++ numbered 1 f.causes

end Failure

end CatalogEntities
