import CatalogEntities.Text.Casing

/-!
# `Log.lean` — what a run says about itself

A log line has a level and a message. Whoever reads the log chooses the least level to see. That
choice hides lines and changes nothing else: what a run does and reports does not depend on it.
-/

set_option autoImplicit false

namespace CatalogEntities

inductive LogLevel
  | debug
  | info
  | warn
  | error
  deriving Repr, DecidableEq

namespace LogLevel

def name : LogLevel → String
  | debug => "DEBUG"
  | info => "INFO"
  | warn => "WARN"
  | error => "ERROR"

/-- The place of a level, the most important last. -/
def rank : LogLevel → Nat
  | debug => 0
  | info => 1
  | warn => 2
  | error => 3

/-- The level that a word names, in any case; a word that names none stands for `info`. So a program
that is told nonsense about its log still runs. -/
def ofName (word : String) : LogLevel :=
  match Text.lowerText word with
  | "debug" => debug
  | "warn" => warn
  | "error" => error
  | _ => info

end LogLevel

/-- **A log line.** -/
structure LogLine where
  level : LogLevel
  message : String
  deriving Repr, DecidableEq

namespace LogLine

def debug (message : String) : LogLine := ⟨.debug, message⟩
def info (message : String) : LogLine := ⟨.info, message⟩
def warn (message : String) : LogLine := ⟨.warn, message⟩

/-- The level and the message as one text. -/
def text (line : LogLine) : String := line.level.name ++ " " ++ line.message

def isVisible (least : LogLevel) (line : LogLine) : Bool := least.rank ≤ line.level.rank

end LogLine

end CatalogEntities
