import CatalogEntities.CommandLine.Execution
import CatalogEntities.Decimal.Layout
import CatalogEntities.Report.Json

/-!
# `CommandLine/Printed.lean` — what the program prints

What a command comes to is printed either for a reader or as structured data. Both tell when the run
took place and how long the database took to answer, which is known only to whoever carried the
command out. The log is printed line by line, in one of two forms as well.

What is printed is for the most part a report, which can be read back as it was. The text for a
reader cannot, and is not meant to be: a path that holds a line feed is printed with it.
-/

set_option autoImplicit false

namespace CatalogEntities.CommandLine

def versionText : String := "pg-entitygen 0.1.0"

/-- What a reader is told who asks for help, or whose command line cannot be understood. -/
def usageText : String :=
  String.join ([
    "Usage: pg-entitygen [OPTIONS] <COMMAND>",
    "",
    "Commands:",
    "  generate [TABLE]...  Generate entity files for all tables or the named ones",
    "  health-check         Test the database connection",
    "  help                 Print help",
    "",
    "Options:",
    "  -c, --config <CONFIG>          Path to the settings file",
    "      --output-json              Output JSON result to stdout",
    "      --log-format <LOG_FORMAT>  Log format: text or json [default: text]",
    "      --verbosity <VERBOSITY>    Log verbosity: debug, info, warn, error [default: info]",
    "  -h, --help                     Print help",
    "  -V, --version                  Print version",
    "",
    "Options of generate:",
    "  -t, --table <NAME>             Table to generate; may be repeated",
    "      --output-dir <OUTPUT_DIR>  Override output directory",
    "      --schema <SCHEMA>          Override schema to introspect",
    "      --dry-run                  Render entities without writing files"
  ].map (· ++ "\n"))

/-- **When a command was carried out.** -/
structure Timing where
  stamp : RunStamp
  latency : Nat

/-- A duration as the log gives it: seconds with one place. The printed result has two. -/
def Timing.logged (t : Timing) : String := t.stamp.seconds.fixed 1 ++ "s"

def outcomeLines (t : Timing) (o : Outcome) : List String :=
  [ "",
    if o.dryRun then "Dry run completed!" else "Entity generation completed!",
    "  Run ID: " ++ t.stamp.runId,
    "  Duration: " ++ t.stamp.seconds.fixed 2 ++ "s",
    "  Files: " ++ toString o.files.length ]
    ++ o.files.map (fun f => "    " ++ f.table ++ " -> " ++ f.path)
    ++ (if o.missing.isEmpty then [] else ["  Missing tables: " ++ Text.shownList o.missing])
    ++ (if o.colliding.isEmpty then []
        else ["  Skipped (file name taken): " ++ Text.shownList o.colliding])

def healthLines (t : Timing) (d : DatabaseSettings) : List String :=
  [ "Health Check Results:",
    "  PostgreSQL " ++ d.host ++ ":" ++ toString d.port.toNat ++ "/" ++ d.database ++ ": OK ("
      ++ toString t.latency ++ "ms)" ]

/-- That a database answers, as structured data. -/
def healthJson (t : Timing) (d : DatabaseSettings) : Json :=
  .object
    [ ("database", .string d.database), ("healthy", .bool true), ("host", .string d.host),
      ("latency_ms", .integer t.latency), ("schema", .string d.schema) ]

/-- **What a command comes to**, in lines for a reader or as structured data. -/
def Product.text (outputJson : Bool) (t : Timing) (p : Product) : String :=
  match p, outputJson with
  | .generated o, true => Report.text ⟨t.stamp, o⟩ ++ "\n"
  | .generated o, false => String.join ((outcomeLines t o).map (· ++ "\n"))
  | .healthy d, true => (healthJson t d).pretty ++ "\n"
  | .healthy d, false => String.join ((healthLines t d).map (· ++ "\n"))

/-! ## The log -/

/-- A character of a log line for a reader. What could steer the reader's terminal (the bell, the
backspace, the page break, the escape and the delete character, and the second row of controls) is
spelled out. -/
def safeChar (c : Char) : List Char :=
  if c = '\x07' then ['\\', 'x', '0', '7']
  else if c = '\x08' then ['\\', 'x', '0', '8']
  else if c = '\x0c' then ['\\', 'x', '0', 'c']
  else if c = '\x1b' then ['\\', 'x', '1', 'b']
  else if c = '\x7f' then ['\\', 'x', '7', 'f']
  else if 0x80 ≤ c.toNat && c.toNat ≤ 0x9F then Text.codeEscape c
  else [c]

/-- A log line for a reader: when, how much it matters, and what. -/
def plainLogLine (time : Instant) (line : LogLine) : String :=
  let level := line.level.name
  time.text ++ " " ++ String.ofList (List.replicate (5 - level.length) ' ') ++ level ++ " "
    ++ String.ofList (line.message.toList.flatMap safeChar) ++ "\n"

/-- A log line as structured data. -/
def jsonLogLine (time : Instant) (line : LogLine) : String :=
  (Json.object
    [ ("timestamp", .string time.text), ("level", .string line.level.name),
      ("fields", .object [("message", .string line.message)]) ]).compact ++ "\n"

/-- **The log of a command** as it asks to see it, all lines with one time. -/
def Invocation.logText (i : Invocation) (t : Timing) (events : List RunEvent) : String :=
  let lines := (events.map (RunEvent.line t.stamp.runId t.logged)).filter (·.isVisible i.logLevel)
  let print := if i.logsJson then jsonLogLine else plainLogLine
  String.join (lines.map (print t.stamp.completedAt))

end CatalogEntities.CommandLine
