import CatalogEntities.Log

/-!
# `Run/Event.lean` — what happens in a run

The events that a run tells its reader about. Their lines name the run and, at its end, how long it
took, which are known to whoever carries the run out and to nothing else here.

A run produces events and not lines, so that two runs can be compared event by event although they
have different names and durations. What of an event is shown, and at which level, is decided by
`RunEvent.line`.
-/

set_option autoImplicit false

namespace CatalogEntities

/-- **An event of a run**, in the order in which they can happen: a run is announced, its tables are
listed and claimed, each is worked on, and at the end the files are counted. Events of different
tables may be mixed, as the steps of their jobs are. -/
inductive RunEvent
  /-- The run begins, on a catalog of some kind. -/
  | started (catalogKind : String)
  /-- All tables are asked for, or some by name. -/
  | requested (tables : List String)
  | notFound (tables : List String)
  | found (count : Nat)
  /-- A table gets no file, because another has its name. -/
  | skipped (table fileName owner : String)
  | processing (table : String)
  | noted (line : LogLine)
  /-- A file was rendered and is not written, because the run is dry. -/
  | wouldCreate (path : String)
  | created (path : String)
  /-- A file written on the way to another could not be removed again. -/
  | leftBehind (path cause : String)
  | completed (files : Nat) (dryRun : Bool)
  deriving Repr, DecidableEq

/-- **The line of an event**, given the name of the run and its duration. Only the first event needs
the one and only the last the other. What the reader should act on is a warning: names that do not
exist, tables without a file, and temporary files that are left behind. -/
def RunEvent.line (runId duration : String) : RunEvent → LogLine
  | started kind => .info ("Starting run " ++ runId ++ " against " ++ kind ++ " catalog")
  | requested [] => .info "Generating entities for all tables"
  | requested tables =>
      .info ("Generating entities for specific tables: " ++ ", ".intercalate tables)
  | notFound tables => .warn ("The following tables were not found: " ++ ", ".intercalate tables)
  | found count => .info ("Found " ++ toString count ++ " tables to process.")
  | skipped table fileName owner =>
      .warn ("Skipping table " ++ table ++ ": " ++ fileName ++ " is already generated from table "
        ++ owner)
  | processing table => .info ("Processing table: " ++ table)
  | noted line => line
  | wouldCreate path => .info ("Would create entity file: " ++ path)
  | created path => .info ("Created entity file: " ++ path)
  | leftBehind path cause => .warn ("Could not remove " ++ path ++ ": " ++ cause)
  | completed files dryRun =>
      .info ("Entity generation completed: " ++ toString files ++ " files"
        ++ (if dryRun then " (dry run)" else "") ++ " in " ++ duration)

end CatalogEntities
