import CatalogEntities.Decimal.Layout
import CatalogEntities.Instant

/-!
# `Report.lean` — what a run did

A report lists the files of a run in the order of the tables, and the tables that got none: those
that do not exist, and those whose file name another table had taken. Between them these lists
account for every name of a request.

A report has two halves. The **outcome** is what a run does, and is a function of the catalog, the
settings and the machine. The **stamp** is when it did so and under which name, which only whoever
carries the run out can know. Statements about runs are about outcomes.
-/

set_option autoImplicit false

namespace CatalogEntities

/-- **A file of a run**: the table it is for, its path as it was joined, and its size. -/
structure GeneratedFile where
  table : String
  path : String
  bytes : Nat
  deriving Repr, DecidableEq

/-- **What a run produced**, apart from when it did. Only a run that goes well has an outcome; what
a run has written before it failed is told by no report. -/
structure Outcome where
  dryRun : Bool
  files : List GeneratedFile
  /-- Tables asked for that do not exist. -/
  missing : List String
  /-- Tables without a file, because an earlier table has its name. -/
  colliding : List String
  deriving Repr, DecidableEq

/-! ## When a run took place -/

namespace RunIdentifier

/-- A byte as two hexadecimal digits. -/
def byteText (b : UInt8) : String :=
  String.ofList [Nat.digitChar (b.toNat / 16), Nat.digitChar (b.toNat % 16)]

/-- The bytes with the six bits in place that tell the kind of identifier: four say that it is a
random one, and two how the bits are to be read. -/
def marked (bytes : List UInt8) : List UInt8 :=
  (bytes.modify 6 fun b => (b &&& 0x0F) ||| 0x40).modify 8 fun b => (b &&& 0x3F) ||| 0x80

/-- **The name of a run** from sixteen bytes: a universally unique identifier, in hexadecimal and
in five groups. The bytes are drawn by whoever carries the run out, so that the report of a run is
a function of them. -/
def ofBytes (bytes : List UInt8) : String :=
  let texts := (marked bytes).map byteText
  "-".intercalate
    ([(0, 4), (4, 2), (6, 2), (8, 2), (10, 6)].map fun (start, count) =>
      String.join ((texts.drop start).take count))

end RunIdentifier

/-- **When a run took place**, and under which name. -/
structure RunStamp where
  runId : String
  startedAt : Instant
  completedAt : Instant
  milliseconds : Int
  deriving Repr, DecidableEq

/-- The stamp of a run between two instants. Its duration is cut to whole milliseconds, towards
zero: clocks may be set back, so it can be negative. -/
def RunStamp.between (runId : String) (started completed : Instant) : RunStamp :=
  ⟨runId, started, completed, (completed.nanoseconds - started.nanoseconds).tdiv 1000000⟩

/-- The duration in seconds, rounded to double precision. -/
def RunStamp.seconds (s : RunStamp) : Double := (Double.ofInt s.milliseconds).dividedBy 1000

/-- **The report of a run.** -/
structure Report where
  stamp : RunStamp
  outcome : Outcome
  deriving Repr, DecidableEq

end CatalogEntities
