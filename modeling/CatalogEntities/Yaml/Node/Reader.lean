import CatalogEntities.Yaml.Node
import CatalogEntities.Yaml.Token

/-!
# `Yaml/Node/Reader.lean` — from tokens to a document

The tokens of a document are taken apart by the usual grammar. Where the tokens end too early or do
not fit, a cut is put into the tree and reading stops.

Functions answer what they read and the state behind it, or no state if reading stopped. An anchor
gets the number of different names so far; so a name that is used again may take the number of
another anchor, which then means the later node.

The functions call one another in a circle and not always on fewer tokens, since a missing value
takes none. So they are given fuel; each call that takes no token is followed by one that does, and
twice the number of tokens is enough.
-/

set_option autoImplicit false

namespace CatalogEntities.Yaml

/-- **The state of reading a document.** -/
structure NodeReader where
  tokens : List Token
  /-- The names of anchors, each with its number. -/
  anchors : List (String × Nat)
  handles : List (String × String)

namespace NodeReader

def standardHandles : List (String × String) := [("!", "!"), ("!!", "tag:yaml.org,2002:")]

def before (r : NodeReader) (tokens : List Token) : NodeReader := { r with tokens }

/-- A name gets a number; one that is known gets another. -/
def withAnchor (r : NodeReader) : Option String → Option Nat × NodeReader
  | none => (none, r)
  | some name =>
      let n := r.anchors.length
      (some n, { r with anchors := (name, n) :: r.anchors.filter (·.1 ≠ name) })

/-- The full text of a tag; none if its handle is not known. -/
def fullTag? (r : NodeReader) (handle suffix : String) : Option String :=
  if handle = "" then some suffix else (r.handles.lookup handle).map (· ++ suffix)

/-- An anchor and a tag as they are written. -/
structure Marks where
  anchor : Option String
  tag : Option (String × String)

/-- The anchor and the tag before a node, in either order. -/
def takeMarks : List Token → Marks × List Token
  | .anchor name :: .tag handle suffix :: rest => (⟨some name, some (handle, suffix)⟩, rest)
  | .tag handle suffix :: .anchor name :: rest => (⟨some name, some (handle, suffix)⟩, rest)
  | .anchor name :: rest => (⟨some name, none⟩, rest)
  | .tag handle suffix :: rest => (⟨none, some (handle, suffix)⟩, rest)
  | rest => (⟨none, none⟩, rest)

/-- The tag of a node in full. The tag `!` alone says of a scalar that it has none. -/
def resolveTag (r : NodeReader) : Option (String × String) → Option (Option String)
  | none => some none
  | some (handle, suffix) => (r.fullTag? handle suffix).map some

/-- A scalar has no tag if its tag is `!`. -/
def scalarTag (tag : Option String) : Option String := tag.filter (· ≠ "!")

/-- Whether a block ends before a token, in the place of a value or a key. -/
def endsEntry : Token → Bool
  | .key | .value | .blockEnd => true
  | _ => false

/-- Whether an item ends before a token, inside brackets. -/
def endsFlowItem : Token → Bool
  | .flowEntry | .flowSequenceEnd => true
  | _ => false

/-- Whether an entry ends before a token, inside braces. -/
def endsFlowEntry : Token → Bool
  | .flowEntry | .flowMappingEnd => true
  | _ => false

/-- **What was read**, and the state behind it; no state if reading stopped. -/
abbrev Read (α : Type) := α × Option NodeReader

def stop : Read Node := (.cut, none)

def stopEntries : Read (List (Node × Node)) := ([(.cut, .cut)], none)

def stopItems : Read (List Node) := ([.cut], none)

/-- Goes on behind a node, with more nodes. If reading stopped inside the node there are no more,
and the cut in it is the last thing in the tree. -/
def followedBy {α : Type} (first : Read Node) (join : Node → List α → List α)
    (rest : NodeReader → Read (List α)) : Read (List α) :=
  match first with
  | (n, none) => (join n [], none)
  | (n, some r) =>
      let (ns, r) := rest r
      (join n ns, r)

mutual

/-- A node. Outside of brackets it may be a block; as a value it may be a sequence whose hyphens
stand in the column of the key. -/
def node (inBlock asValue : Bool) : Nat → NodeReader → Read Node
  | 0, _ => stop
  | fuel + 1, r =>
      match r.tokens with
      | .alias name :: rest =>
          match r.anchors.lookup name with
          | some n => (.reference n, some (r.before rest))
          | none => stop
      | tokens =>
          let (marks, rest) := takeMarks tokens
          match rest, r.resolveTag marks.tag with
          | [], _ | _, none => stop
          | t :: behind, some tag =>
              let (anchor, r) := r.withAnchor marks.anchor
              let content (build : List Node → Node) (x : Read (List Node)) : Read Node :=
                (build x.1, x.2)
              let entries (x : Read (List (Node × Node))) : Read Node :=
                (.mapping ⟨anchor, tag⟩ x.1, x.2)
              match t, inBlock with
              -- a hyphen without the beginning of a block: the sequence hangs below its key
              | .blockEntry, _ =>
                  if asValue then
                    content (.sequence ⟨anchor, tag⟩) (hangingItems fuel (r.before rest))
                  else if marks.anchor.isSome || marks.tag.isSome then
                    (.scalar ⟨anchor, scalarTag tag⟩ .plain "", some (r.before rest))
                  else stop
              | .scalar style text, _ =>
                  (.scalar ⟨anchor, scalarTag tag⟩ style text, some (r.before behind))
              | .flowSequenceStart, _ =>
                  content (.sequence ⟨anchor, tag⟩) (flowItems true fuel (r.before behind))
              | .flowMappingStart, _ => entries (flowEntries true fuel (r.before behind))
              | .blockSequenceStart, true =>
                  content (.sequence ⟨anchor, tag⟩) (blockItems fuel (r.before behind))
              | .blockMappingStart, true => entries (blockEntries fuel (r.before behind))
              -- an anchor or a tag alone stands for a node of which nothing is written
              | _, _ =>
                  if marks.anchor.isSome || marks.tag.isSome then
                    (.scalar ⟨anchor, scalarTag tag⟩ .plain "", some (r.before rest))
                  else stop

def blockItems : Nat → NodeReader → Read (List Node)
  | 0, _ => stopItems
  | fuel + 1, r =>
      match r.tokens with
      | .blockEntry :: rest =>
          let item : Read Node :=
            match rest with
            | [] => stop
            | .blockEntry :: _ | .blockEnd :: _ => (.absent, some (r.before rest))
            | _ => node true false fuel (r.before rest)
          followedBy item (· :: ·) (blockItems fuel)
      | .blockEnd :: rest => ([], some (r.before rest))
      | _ => stopItems

/-- The items of a block sequence whose hyphens stand in the column of the key. -/
def hangingItems : Nat → NodeReader → Read (List Node)
  | 0, _ => stopItems
  | fuel + 1, r =>
      match r.tokens with
      | .blockEntry :: rest =>
          let item : Read Node :=
            match rest with
            | [] => stop
            | .blockEntry :: _ => (.absent, some (r.before rest))
            | t :: _ =>
                if endsEntry t then (.absent, some (r.before rest))
                else node true false fuel (r.before rest)
          followedBy item (· :: ·) (hangingItems fuel)
      | [] => stopItems
      -- such a sequence has no token for its end: what comes now belongs to the mapping around it
      | _ => ([], some r)

def blockEntries : Nat → NodeReader → Read (List (Node × Node))
  | 0, _ => stopEntries
  | fuel + 1, r =>
      match r.tokens with
      | .key :: rest =>
          let key : Read Node :=
            match rest with
            | [] => stop
            | t :: _ =>
                if endsEntry t then (.absent, some (r.before rest))
                else node true true fuel (r.before rest)
          match key with
          | (k, none) => ([(k, .cut)], none)
          | (k, some r) =>
              followedBy (blockValue fuel r) (fun v es => (k, v) :: es) (blockEntries fuel)
      | .blockEnd :: rest => ([], some (r.before rest))
      | _ => stopEntries

def blockValue : Nat → NodeReader → Read Node
  | 0, _ => stop
  | fuel + 1, r =>
      match r.tokens with
      | .value :: rest =>
          match rest with
          | [] => stop
          | t :: _ =>
              if endsEntry t then (.absent, some (r.before rest))
              else node true true fuel (r.before rest)
      | [] => stop
      | _ => (.absent, some r)

/-- The items of a sequence in brackets; before each but the first stands a comma. -/
def flowItems (isFirst : Bool) : Nat → NodeReader → Read (List Node)
  | 0, _ => stopItems
  | fuel + 1, r =>
      match r.tokens with
      | [] => stopItems
      | .flowSequenceEnd :: rest => ([], some (r.before rest))
      | t :: rest =>
          if !isFirst && t ≠ .flowEntry then stopItems
          else
            match if isFirst then t :: rest else rest with
            | [] => stopItems
            -- a comma may stand behind the last item
            | .flowSequenceEnd :: rest => ([], some (r.before rest))
            | .key :: rest =>
                followedBy (singleEntry fuel (r.before rest)) (· :: ·) (flowItems false fuel)
            | tokens =>
                followedBy (node false false fuel (r.before tokens)) (· :: ·) (flowItems false fuel)

/-- A mapping of one entry inside brackets, from behind the mark of its key on. Where the key is
missing, the token in its place is lost. -/
def singleEntry : Nat → NodeReader → Read Node
  | 0, _ => stop
  | fuel + 1, r =>
      let build (k v : Node) : Node := .mapping .none [(k, v)]
      let key : Read Node :=
        match r.tokens with
        | [] => stop
        | t :: rest =>
            if t = .value || endsFlowItem t then (.absent, some (r.before rest))
            else node false false fuel r
      match key with
      | (k, none) => (build k .cut, none)
      | (k, some r) =>
          match r.tokens with
          | [] => (build k .cut, none)
          | .value :: [] => (build k .cut, none)
          | .value :: t :: rest =>
              if endsFlowItem t then (build k .absent, some (r.before (t :: rest)))
              else
                let (v, r) := node false false fuel (r.before (t :: rest))
                (build k v, r)
          | _ => (build k .absent, some r)

/-- The entries of a mapping in braces; before each but the first stands a comma. -/
def flowEntries (isFirst : Bool) : Nat → NodeReader → Read (List (Node × Node))
  | 0, _ => stopEntries
  | fuel + 1, r =>
      match r.tokens with
      | [] => stopEntries
      | .flowMappingEnd :: rest => ([], some (r.before rest))
      | t :: rest =>
          if !isFirst && t ≠ .flowEntry then stopEntries
          else
            match if isFirst then t :: rest else rest with
            | [] => stopEntries
            | .flowMappingEnd :: rest => ([], some (r.before rest))
            | .key :: rest =>
                let key : Read Node :=
                  match rest with
                  | [] => stop
                  | t :: _ =>
                      if t = .value || endsFlowEntry t then (.absent, some (r.before rest))
                      else node false false fuel (r.before rest)
                match key with
                | (k, none) => ([(k, .cut)], none)
                | (k, some r) =>
                    followedBy (flowValue fuel r) (fun v es => (k, v) :: es)
                      (flowEntries false fuel)
            -- a node without the mark of a key is a key without a value
            | tokens =>
                match node false false fuel (r.before tokens) with
                | (k, none) => ([(k, .cut)], none)
                | (k, some r) =>
                    followedBy (if r.tokens.isEmpty then stop else (.absent, some r))
                      (fun v es => (k, v) :: es) (flowEntries false fuel)

def flowValue : Nat → NodeReader → Read Node
  | 0, _ => stop
  | fuel + 1, r =>
      match r.tokens with
      | [] => stop
      | .value :: [] => stop
      | .value :: t :: rest =>
          if endsFlowEntry t then (.absent, some (r.before (t :: rest)))
          else node false false fuel (r.before (t :: rest))
      | _ => (.absent, some r)

end

/-! ## Documents -/

/-- The directives before a document: whether a version was given, and the handles. -/
def directives : List Token → Bool → List (String × String) →
    Option (List Token × List (String × String))
  | .versionDirective major minor :: rest, versioned, handles =>
      if versioned || major ≠ 1 || (minor ≠ 1 && minor ≠ 2) then none
      else directives rest true handles
  | .tagDirective handle beginning :: rest, versioned, handles =>
      if (handles.lookup handle).isSome then none
      else directives rest versioned ((handle, beginning) :: handles)
  | tokens, _, handles => some (tokens, handles)

/-- Whether a token shows that a document begins without a mark. -/
def beginsPlainly : Token → Bool
  | .versionDirective .. | .tagDirective .. | .documentStart | .streamEnd => false
  | _ => true

def endsDocument : Token → Bool
  | .versionDirective .. | .tagDirective .. | .documentStart | .documentEnd | .streamEnd => true
  | _ => false

/-- Tokens behind the mark that ends a document, if it is there. -/
def skipEnd : List Token → List Token
  | .documentEnd :: rest => rest
  | tokens => tokens

/-- Whether nothing follows a document. Several marks may end it. -/
def endsStream (tokens : List Token) : Bool :=
  match (skipEnd tokens).dropWhile (· = .documentEnd) with
  | .streamEnd :: _ => true
  | _ => false

def finish (x : Read Node) : Document :=
  match x with
  | (root, none) => ⟨some root, false⟩
  | (root, some r) => ⟨some root, endsStream r.tokens⟩

end NodeReader

/-- **The document of a row of tokens.** Handles of tags that a document does not define itself are
the standard ones. -/
def Document.ofTokens (tokens : List Token) : Document :=
  let fuel := 2 * tokens.length + 8
  let reader (tokens : List Token) (handles : List (String × String)) : NodeReader :=
    ⟨tokens, [], handles ++ NodeReader.standardHandles⟩
  match tokens with
  | [] => ⟨some .cut, false⟩
  | .streamEnd :: _ => ⟨none, true⟩
  | t :: _ =>
      if NodeReader.beginsPlainly t then
        NodeReader.finish (NodeReader.node true false fuel (reader tokens []))
      else
        match NodeReader.directives tokens false [] with
        | some (.documentStart :: rest, handles) =>
            match rest with
            | [] => ⟨some .cut, false⟩
            | t :: _ =>
                if NodeReader.endsDocument t then
                  NodeReader.finish (.absent, some (reader rest handles))
                else NodeReader.finish (NodeReader.node true false fuel (reader rest handles))
        | _ => ⟨some .cut, false⟩

end CatalogEntities.Yaml
