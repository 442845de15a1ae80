import CatalogEntities.Json.Decode
import CatalogEntities.Json.Writer
import CatalogEntities.Report

/-!
# `Report/Json.lean` — reports as structured data

A report is one object. The order of its members is that of a story: which run and when, how long,
what came out of it and what did not.

A report is only written; of its parts, the files can also be read. The duration is an argument of
the writer, because a number of seconds need not be one that the format can hold.
-/

set_option autoImplicit false

namespace CatalogEntities

open CatalogEntities.Json

namespace GeneratedFile

def shape : String := "struct GeneratedFile with 3 elements"

def toJson (f : GeneratedFile) : Json :=
  .object [("table", .string f.table), ("path", .string f.path), ("bytes", .integer f.bytes)]

/-- **A file of a run** from an object or an array. -/
def ofJson : Json.Decoder GeneratedFile
  | .object fields => do
      let m := members fields
      let bytes ← field m "bytes" decodeSize
      let path ← field m "path" decodePath
      let table ← field m "table" decodeString
      let table ← required "table" table
      let path ← required "path" path
      let bytes ← required "bytes" bytes
      return ⟨table, path, bytes⟩
  | .array items => do
      let table ← element items 0 shape decodeString
      let path ← element items 1 shape decodePath
      let bytes ← element items 2 shape decodeSize
      noneBeyond items 3
      return ⟨table, path, bytes⟩
  | value => value.refuse "struct GeneratedFile"

end GeneratedFile

namespace Outcome

def toMembers (o : Outcome) : List (String × Json) :=
  [ ("dry_run", .bool o.dryRun),
    ("files", .array (o.files.map GeneratedFile.toJson)),
    ("missing_tables", .strings o.missing),
    ("colliding_tables", .strings o.colliding) ]

end Outcome

namespace Report

/-- A report as data, if its run took so many seconds. A number of seconds that is not finite is
left open. -/
def toJsonLasting (r : Report) (seconds : Option Double) : Json :=
  .object
    ([ ("run_id", .string r.stamp.runId),
       ("started_at", .string r.stamp.startedAt.text),
       ("completed_at", .string r.stamp.completedAt.text),
       ("duration_seconds", .orNull .float seconds) ] ++ r.outcome.toMembers)

def toJson (r : Report) : Json := r.toJsonLasting (some r.stamp.seconds)

/-- The text of a report, if its run took so many seconds. -/
def textLasting (r : Report) (seconds : Option Double) : String := (r.toJsonLasting seconds).pretty

/-- **The text of a report**, indented for a reader: what the command prints when it is asked for
the report as data. -/
def text (r : Report) : String := r.textLasting (some r.stamp.seconds)

end Report

end CatalogEntities
