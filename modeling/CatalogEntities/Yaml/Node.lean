import CatalogEntities.Yaml.Token

/-!
# `Yaml/Node.lean` — documents as trees

A document is a tree of scalars, sequences and mappings. A node may carry an anchor, and a
reference stands for the node that carries it. Anchors are numbered in the order of the document.

A malformed text also has a tree, up to the place where it is malformed: there stands a **cut**,
and nothing follows it. Whoever takes a tree apart in the order of the document finds everything
before that place, and the cut exactly when reading on would have met the malformed text.
-/

set_option autoImplicit false

namespace CatalogEntities.Yaml

/-- **What a node carries** besides its content: the number under which references find it, and what
it says about its own type. -/
structure Properties where
  anchor : Option Nat
  tag : Option String
  deriving Repr, DecidableEq

def Properties.none : Properties := ⟨.none, .none⟩

/-- **A node.** Entries of a mapping are kept in the order of the text and may repeat a key, because
a key that is given twice is a fault only for those who look at it. -/
inductive Node
  | scalar (properties : Properties) (style : Style) (text : String)
  | reference (anchor : Nat)
  | sequence (properties : Properties) (items : List Node)
  | mapping (properties : Properties) (entries : List (Node × Node))
  | cut
  deriving Repr, Inhabited

namespace Node

/-- The node that stands where nothing is written. -/
def absent : Node := scalar .none .plain ""

mutual

/-- Whether a node has no cut. Those who ignore a value have to walk through it all the same, for a
malformed text is reported even where nobody asks for what it says. -/
def isWhole : Node → Bool
  | scalar .. | reference _ => true
  | sequence _ items => areWhole items
  | mapping _ entries => arePairsWhole entries
  | cut => false

def areWhole : List Node → Bool
  | [] => true
  | n :: rest => isWhole n && areWhole rest

def arePairsWhole : List (Node × Node) → Bool
  | [] => true
  | (k, v) :: rest => isWhole k && isWhole v && arePairsWhole rest

end

/-- A node under the number of its anchor, if it has one. -/
def named (p : Properties) (n : Node) : List (Nat × Node) :=
  match p.anchor with
  | some i => [(i, n)]
  | none => []

mutual

/-- The nodes with anchors, in the order of the document. -/
def anchored : Node → List (Nat × Node)
  | scalar p s t => named p (scalar p s t)
  | reference _ => []
  | sequence p items => named p (sequence p items) ++ anchoredItems items
  | mapping p entries => named p (mapping p entries) ++ anchoredPairs entries
  | cut => []

def anchoredItems : List Node → List (Nat × Node)
  | [] => []
  | n :: rest => anchored n ++ anchoredItems rest

def anchoredPairs : List (Node × Node) → List (Nat × Node)
  | [] => []
  | (k, v) :: rest => anchored k ++ anchored v ++ anchoredPairs rest

end

end Node

/-- **A document**: its tree, and how the text ends behind it. -/
structure Document where
  /-- Its content; none if there is no document in the text. -/
  root : Option Node
  /-- Whether it is well formed to its end, and nothing follows it. -/
  isComplete : Bool

namespace Document

/-- The node that carries the anchor of a number. Where a number was given twice, the last node
counts. -/
def find? (d : Document) (anchor : Nat) : Option Node :=
  match d.root with
  | some root => (root.anchored.reverse).lookup anchor
  | none => none

end Document

end CatalogEntities.Yaml
