/-!
# `CommandLine/Grammar.lean` — options and operands among words

A command line is a list of words. Words that begin with a dash are options: two dashes and a name,
or one dash and letters. An option either stands for itself or has a value, which is attached to it
or is the next word. Two dashes alone end the options; the other words are operands, or the name of
a command, which has a grammar of its own for the words behind it.

Words are read from left to right, and reading stops at the first that cannot be right, or that
asks for help or for the version. A value that is a word of its own is looked at when the next
option or operand comes, or at the end: until then it is **held**.

Holding is not a detail of the reading, it can be seen: which of two faults in one line is reported,
and whether help is shown instead of either, depends on when a value is looked at. A reader that
looked at once would be simpler and would be another program.
-/

set_option autoImplicit false

namespace CatalogEntities.CommandLine

/-! ## Grammars -/

/-- **What an option is for**: it stands for itself, it has a value, or it ends the reading. -/
inductive OptionKind
  | flag
  | value (mayBeEmpty repeatable : Bool)
  | help
  | version
  deriving Repr, DecidableEq

def OptionKind.hasValue : OptionKind → Bool
  | value .. => true
  | _ => false

/-- **An option.** -/
structure OptionRule where
  name : String
  letter : Option Char
  kind : OptionKind
  deriving Repr, DecidableEq

/-- **What may stand on a command line.** A grammar has commands or takes operands; one that did
both would read the name of a command as one, wherever an operand could stand. -/
structure Grammar where
  options : List OptionRule
  commands : List String
  takesOperands : Bool

/-- **Why reading stops.** Two of the reasons are no faults: they are what was asked for. -/
inductive Stop
  | help
  | version
  /-- A word cannot be right, or something is missing. -/
  | misuse
  deriving Repr, DecidableEq

/-! ## What was given -/

/-- **The options and operands of a command line.** -/
structure Given where
  /-- The names of the options with their values, in order. -/
  options : List (String × String)
  operands : List String
  deriving Repr, DecidableEq

namespace Given

def nothing : Given := ⟨[], []⟩

def has (g : Given) (name : String) : Bool := g.options.any (·.1 = name)

def value? (g : Given) (name : String) : Option String := g.options.lookup name

/-- All values of an option, in order. -/
def values (g : Given) (name : String) : List String :=
  (g.options.filter (·.1 = name)).map Prod.snd

/-- **Adds an option**, with an empty value if it has none. This is where a value is looked at: an
option that comes twice, or a value that must not be empty, is a fault here and not before. -/
def add (g : Given) (rule : OptionRule) (value : String) : Except Stop Given :=
  let added : Given := { g with options := g.options ++ [(rule.name, value)] }
  match rule.kind with
  | .help => .error .help
  | .version => .error .version
  | .flag => if g.has rule.name then .error .misuse else .ok added
  | .value mayBeEmpty repeatable =>
      if (g.has rule.name && !repeatable) || (value = "" && !mayBeEmpty) then .error .misuse
      else .ok added

end Given

/-! ## Reading -/

/-- **How far a command line is read.** -/
structure Reading where
  given : Given
  /-- The last option, if it has not been looked at yet, and its value, if that has come. -/
  held : Option (OptionRule × Option String)
  deriving Repr, DecidableEq

namespace Reading

def start : Reading := ⟨.nothing, none⟩

/-- What is given when the held option counts too. An option that still waits for its value is a
misuse. -/
def settled (r : Reading) : Except Stop Given :=
  match r.held with
  | none => .ok r.given
  | some (_, none) => .error .misuse
  | some (rule, some value) => r.given.add rule value

def waiting? (r : Reading) : Option OptionRule :=
  match r.held with
  | some (rule, none) => some rule
  | _ => none

/-- Adds an option with its value, if it has one. -/
def take (r : Reading) (rule : OptionRule) (value : String) : Except Stop Reading := do
  let given ← r.settled
  return ⟨← given.add rule value, none⟩

/-- Holds an option whose value is to be the next word. -/
def await (r : Reading) (rule : OptionRule) : Except Stop Reading := do
  return ⟨← r.settled, some (rule, none)⟩

def operand (r : Reading) (grammar : Grammar) (word : String) : Except Stop Reading := do
  let given ← r.settled
  if grammar.takesOperands then
    return ⟨{ given with operands := given.operands ++ [word] }, none⟩
  else throw .misuse

/-- Reads an option by its name, from behind two dashes. A value may be attached with an equals
sign, and then everything behind the first of them is the value. -/
def readName (r : Reading) (grammar : Grammar) (cs : List Char) : Except Stop Reading :=
  let name := String.ofList (cs.takeWhile (· ≠ '='))
  match grammar.options.find? (·.name = name), cs.dropWhile (· ≠ '=') with
  | none, _ => .error .misuse
  | some rule, [] => if rule.kind.hasValue then r.await rule else r.take rule ""
  | some rule, _ :: value =>
      if rule.kind.hasValue then r.take rule (String.ofList value) else .error .misuse

/-- Reads options from the letters behind one dash. What stands behind the letter of an option with
a value is the value, with or without an equals sign in front. -/
def readLetters (grammar : Grammar) : Reading → List Char → Except Stop Reading
  | r, [] => .ok r
  | r, c :: rest =>
      match grammar.options.find? (·.letter = some c) with
      | none => .error .misuse
      | some rule =>
          if rule.kind.hasValue then
            match rest with
            | [] => r.await rule
            | '=' :: value => r.take rule (String.ofList value)
            | value => r.take rule (String.ofList value)
          else
            match r.take rule "" with
            | .ok r => readLetters grammar r rest
            | .error stop => .error stop

/-- **Reads a word** that is no command and does not end the options. A word with a dash in front is
an option even where a value is awaited, except for the dash alone. -/
def readWord (r : Reading) (grammar : Grammar) (word : String) : Except Stop Reading :=
  match word.toList, r.waiting? with
  | '-' :: '-' :: name, _ => r.readName grammar name
  | '-' :: c :: rest, _ => readLetters grammar r (c :: rest)
  | _, some rule => .ok ⟨r.given, some (rule, some word)⟩
  | _, none => r.operand grammar word

end Reading

/-- **What a grammar makes of words**: what was read, and the command with the words behind it, if
one was met. -/
structure Line where
  reading : Reading
  command : Option (String × List String)

namespace Grammar

/-- Reads words from some point on. The name of a command is only one where no value is awaited, and
behind two dashes alone every word is an operand. -/
def readFrom (grammar : Grammar) : Reading → List String → Except Stop Line
  | r, [] => .ok ⟨r, none⟩
  | r, word :: rest =>
      if r.waiting?.isNone && grammar.commands.contains word then .ok ⟨r, some (word, rest)⟩
      else if word = "--" then
        match rest.foldlM (fun r word => r.operand grammar word) r with
        | .ok r => .ok ⟨r, none⟩
        | .error stop => .error stop
      else
        match r.readWord grammar word with
        | .ok r => readFrom grammar r rest
        | .error stop => .error stop

/-- **Reads a command line.** -/
def read (grammar : Grammar) (words : List String) : Except Stop Line :=
  grammar.readFrom .start words

end Grammar

end CatalogEntities.CommandLine
