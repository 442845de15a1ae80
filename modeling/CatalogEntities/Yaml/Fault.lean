import CatalogEntities.Shape

/-!
# `Yaml/Fault.lean` — settings files that cannot be read

A settings file is either no document at all, or a document of the wrong shape. The wrong place is
named by its path, as in `generator.excluded_tables[1]`; a fault of the document as a whole names no
place.

What exactly makes a text malformed is not told apart: every such text has the one fault. What a run
depends on is that it is malformed, and that nothing in front of the place had a fault of its own.
-/

set_option autoImplicit false

namespace CatalogEntities.Yaml

/-- **A step from a value into one of its parts.** Paths are lists of such steps, from the outside
in. -/
inductive PathStep
  | field (name : String)
  | item (index : Nat)
  /-- Into the value of a field whose name is only referred to. -/
  | unnamed
  deriving Repr, DecidableEq

def PathStep.text : PathStep → String
  | field name => name
  | item index => "[" ++ toString index ++ "]"
  | unnamed => "?"

def PathStep.joint : PathStep → String
  | item _ => ""
  | _ => "."

/-- The text of a path, from the outside in. -/
def pathText : List PathStep → String
  | [] => ""
  | step :: rest => step.text ++ String.join (rest.map fun s => s.joint ++ s.text)

/-- **What is wrong with a settings file**: with its text, or with what the text describes. Only the
second has a place, since only then is there a document that has places. -/
inductive Fault
  /-- The text is not one well-formed document. -/
  | malformed
  | shape (path : List PathStep) (fault : Shape.Fault)
  deriving Repr, DecidableEq

def wording : Shape.Wording := ⟨"unit value", .plain⟩

/-- **The message of a fault.** -/
def Fault.message : Fault → String
  | malformed => "the text is not one well-formed document"
  | shape [] fault => fault.message wording
  | shape path fault => pathText path ++ ": " ++ fault.message wording

end CatalogEntities.Yaml
