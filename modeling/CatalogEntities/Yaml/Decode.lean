import CatalogEntities.Yaml.Scalar

/-!
# `Yaml/Decode.lean` — taking documents apart

Decoders for what settings are made of. A document is taken apart in its own order, so of several
faults the one that stands first is reported; only fields that are missing are reported at the end
of their mapping. Every fault carries the path of the value it is about.

Where the text is malformed the tree has a cut, and whoever comes upon it reports a malformed text
instead of any fault of shape further on.

A reference counts as what it refers to. A mapping of which nothing is written is empty, and so is
a sequence; this holds for a value that is left out, not for one that says it is nothing.
-/

set_option autoImplicit false

namespace CatalogEntities.Yaml

open CatalogEntities.Shape (Found)

/-- A decoder, which is told the document that references are looked up in, and the path. -/
abbrev Decoder (α : Type) := Document → List PathStep → Node → Except Fault α

variable {α σ : Type}

/-- What a reference refers to; any other node is itself. A reference to a node behind a cut finds
nothing, and then the cut has to be reported. -/
def Document.target (d : Document) : Node → Node
  | .reference anchor => (d.find? anchor).getD .cut
  | n => n

/-- Whether nothing is written in the place of a node. -/
def Node.isVoid : Node → Bool
  | .scalar _ .plain text => text = ""
  | _ => false

/-- The fault of a node that is not what was wanted; a cut is no such fault but that of the text. -/
def refuse (path : List PathStep) (wanted : String) : Node → Except Fault α
  | .scalar p style text =>
      match found p style text with
      | .ok f => .error (.shape path (.invalidType f wanted))
      | .error fault => .error (.shape path fault)
  | .sequence .. => .error (.shape path (.invalidType .sequence wanted))
  | .mapping .. => .error (.shape path (.invalidType .map wanted))
  | .reference _ | .cut => .error .malformed

/-! ## Scalars -/

/-- Any scalar, as it is written. -/
def decodeText (wanted : String) : Decoder String := fun d path n =>
  match d.target n with
  | .scalar _ _ text => .ok text
  | n => refuse path wanted n

def decodeString : Decoder String := decodeText "a string"

/-- A path is text, but is asked for under its own name. -/
def decodePath : Decoder String := decodeText "path string"

def decodeBool : Decoder Bool := fun d path n =>
  match d.target n with
  | .scalar p style text =>
      match if isReadAs "bool" p style then readBool? text else none with
      | some b => .ok b
      | none => refuse path "a boolean" (.scalar p style text)
  | n => refuse path "a boolean" n

/-- A number of 16 bits. A number that fits a word of 64 bits and is too large is out of range; all
others are no numbers here. -/
def decodeUnsigned16 : Decoder UInt16 := fun d path n =>
  match d.target n with
  | .scalar p style text =>
      match (if isReadAs "int" p style then readUnsigned? text.toList else none).filter
          (· < Nat.pow 2 64) with
      | some n =>
          if n ≤ 65535 then .ok (UInt16.ofNat n)
          else .error (.shape path (.invalidValue (.integer n) "u16"))
      | none => refuse path "u16" (.scalar p style text)
  | n => refuse path "u16" n

/-! ## Sequences -/

def decodeItems (decode : Decoder α) (d : Document) (path : List PathStep) :
    Nat → List Node → Except Fault (List α)
  | _, [] => .ok []
  | i, n :: rest => do
      let x ← decode d (path ++ [.item i]) n
      let xs ← decodeItems decode d path (i + 1) rest
      return x :: xs

/-- A list, item by item; the path of a fault ends with the number of the item. -/
def decodeList (decode : Decoder α) : Decoder (List α) := fun d path n =>
  match d.target n with
  | .sequence _ items => decodeItems decode d path 0 items
  | n => if n.isVoid then .ok [] else refuse path "a sequence" n

/-! ## Mappings -/

/-- **What a mapping is read into**: for each of its fields, what was read of it so far and how to
read it. -/
structure Record (σ : Type) where
  /-- What the mapping is called when something else stands in its place. -/
  name : String
  /-- The names of its fields, and how each reads a value into the whole. Reading answers none if
  the field was read before. -/
  fields : List (String × (σ → Option (Document → List PathStep → Node → Except Fault σ)))

/-- The name of a key; none if it is no scalar. -/
def keyName? (d : Document) (key : Node) : Option String :=
  match d.target key with
  | .scalar _ _ text => some text
  | _ => none

/-- The step to the value of a key, whose name is not known if the key is a reference. -/
def stepOf : Node → PathStep
  | .scalar _ _ text => .field text
  | _ => .unnamed

/-- A value that nobody asks for; it must be well formed all the same. -/
def skip (n : Node) : Except Fault Unit := if n.isWhole then .ok () else .error .malformed

/-- Reads one entry. The value under an unknown name is walked through and dropped; that under a
name which was given before is not looked at any more. -/
def decodeEntry (record : Record σ) (d : Document) (path : List PathStep) (state : σ)
    (key value : Node) : Except Fault σ :=
  match keyName? d key with
  | none => refuse path "field identifier" (d.target key)
  | some name =>
      match record.fields.lookup name with
      | none => (skip value).map fun _ => state
      | some read =>
          match read state with
          | none => .error (.shape path (.duplicateField name))
          | some decode => decode d (path ++ [stepOf key]) value

/-- Reads the entries of a mapping, one after the other. -/
def decodeEntries (record : Record σ) (d : Document) (path : List PathStep) :
    σ → List (Node × Node) → Except Fault σ
  | state, [] => .ok state
  | state, (key, value) :: rest => do
      let state ← decodeEntry record d path state key value
      decodeEntries record d path state rest

/-- **Reads a mapping** into a record, from an initial state. -/
def decodeRecord (record : Record σ) (initial : σ) : Decoder σ := fun d path n =>
  match d.target n with
  | .mapping _ entries => decodeEntries record d path initial entries
  | n => if n.isVoid then .ok initial else refuse path record.name n

/-- A field of a record: it is empty until it is read, and is read once. -/
def fieldOf (get : σ → Option α) (set : σ → α → σ) (decode : Decoder α) :
    σ → Option (Document → List PathStep → Node → Except Fault σ) := fun state =>
  match get state with
  | some _ => none
  | none => some fun d path n => (decode d path n).map (set state)

/-- A field that must have been read. -/
def required (path : List PathStep) (name : String) : Option α → Except Fault α
  | some x => .ok x
  | none => .error (.shape path (.missingField name))

/-! ## Whole documents -/

/-- **Decodes a document.** A text without a document counts as an empty mapping or sequence. After
the value, the document must end well and nothing may follow it. -/
def Document.decode (d : Document) (decode : Decoder α) : Except Fault α :=
  match decode d [] (d.root.getD .absent) with
  | .error fault => .error fault
  | .ok x => if d.isComplete then .ok x else .error .malformed

end CatalogEntities.Yaml
