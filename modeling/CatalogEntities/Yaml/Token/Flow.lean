import CatalogEntities.Text.Character
import CatalogEntities.Yaml.Cursor

/-!
# `Yaml/Token/Flow.lean` — scalars inside lines

Plain and quoted scalars may run over several lines. What stands between two lines of a scalar, the
blanks around the line end and the line end itself, is a **gap**: a single line end becomes a space,
and of several line ends the first vanishes and the others stay. Blanks within a line stay as they
are.

Every reader answers none where the text is malformed. Fuel bounds the rounds by the characters that
are left: each round of `plainRest` and `quotedRest` takes at least one of them.
-/

set_option autoImplicit false

namespace CatalogEntities.Yaml

/-! ## Gaps -/

/-- **What stands between two pieces of a scalar.** -/
structure Gap where
  /-- The blanks, as long as no line end follows them. -/
  blanks : List Char
  broken : Bool
  first : List Char
  others : List Char

namespace Gap

def none : Gap := ⟨[], false, [], []⟩

/-- The gap that an escaped line end leaves: a line that ended without a trace. -/
def escaped : Gap := ⟨[], true, [], []⟩

def text (g : Gap) : List Char :=
  if !g.broken then g.blanks
  else if g.first = ['\n'] then (if g.others.isEmpty then [' '] else g.others)
  else g.first ++ g.others

/-- Reads on through blanks and line ends. In a plain scalar a tab must not take the place of
indentation: `tabFrom` is the column from which on it may stand at the beginning of a line. -/
def readOn (tabFrom : Int) : Nat → Cursor → Gap → Option (Gap × Cursor)
  | 0, c, g => some (g, c)
  | fuel + 1, c, g =>
      match c.next? with
      | .none => some (g, c)
      | some char =>
          if isBlank char then
            if g.broken then
              if char = '\t' ∧ (c.column : Int) < tabFrom then .none
              else readOn tabFrom fuel (c.advance 1) g
            else readOn tabFrom fuel (c.advance 1) { g with blanks := g.blanks ++ [char] }
          else if isBreak char then
            let (text, c) := c.takeBreak
            if g.broken then readOn tabFrom fuel c { g with others := g.others ++ text }
            else readOn tabFrom fuel c ⟨[], true, text, []⟩
          else some (g, c)

end Gap

/-! ## Plain scalars -/

def isFlowMark (c : Char) : Bool := c = ',' || c = '[' || c = ']' || c = '{' || c = '}'

/-- The characters of a plain scalar up to a gap or its end. A colon ends it before a gap; between
brackets also a bracket or a comma does, and a colon directly before one is malformed. -/
def plainRun (inFlow : Bool) : List Char → Option (List Char)
  | [] => some []
  | c :: rest =>
      if isGap c then some []
      else if inFlow && c = ':' && rest.head?.any (fun d => isFlowMark d || d = '?') then none
      else if c = ':' && rest.head?.all isGap then some []
      else if inFlow && isFlowMark c then some []
      else (plainRun inFlow rest).map (c :: ·)

/-- **A scalar that was read**: its text, the place behind it, and whether a line ended in the gap
behind it, so that a new key may begin there. -/
structure FlowScalar where
  text : List Char
  cursor : Cursor
  broken : Bool

/-- The rest of a plain scalar: `before` is what was read and `gap` what followed it. Outside of
brackets every line must be indented to the given column. -/
def plainRest (inFlow : Bool) (indent : Int) :
    Nat → Cursor → List Char → Gap → Option FlowScalar
  | 0, c, before, gap => some ⟨before, c, gap.broken⟩
  | fuel + 1, c, before, gap =>
      -- a gap stands in front of this place, so a hash sign here begins a comment
      if c.atSeparator || c.isAt '#' then some ⟨before, c, gap.broken⟩
      else
        match plainRun inFlow c.rest with
        | none => none
        | some [] => some ⟨before, c, gap.broken⟩
        | some run =>
            let c := c.advance run.length
            let before := before ++ gap.text ++ run
            if !c.sees isGap then some ⟨before, c, false⟩
            else
              match Gap.readOn indent c.rest.length c .none with
              | none => none
              | some (gap, c) =>
                  -- the line here belongs to what is around the block
                  if !inFlow && (c.column : Int) < indent then some ⟨before, c, gap.broken⟩
                  else plainRest inFlow indent fuel c before gap

/-- **Reads a plain scalar**, over as many lines as belong to it. The gap behind it is read as well
and given up: the next token begins behind it. -/
def readPlain (inFlow : Bool) (indent : Int) (c : Cursor) : Option FlowScalar :=
  plainRest inFlow indent (c.rest.length + 1) c [] .none

/-! ## Quoted scalars -/

/-- The characters of a single-quoted scalar up to a gap or a quote that is not doubled, with the
number of characters they take up. -/
def singleRun : List Char → List Char × Nat
  | '\'' :: '\'' :: rest =>
      let (text, n) := singleRun rest
      ('\'' :: text, n + 2)
  | c :: rest =>
      if c = '\'' || isGap c then ([], 0)
      else
        let (text, n) := singleRun rest
        (c :: text, n + 1)
  | [] => ([], 0)

def escape? : Char → Option Char
  | '0' => some '\x00'
  | 'a' => some '\x07'
  | 'b' => some '\x08'
  | 't' | '\t' => some '\t'
  | 'n' => some '\n'
  | 'v' => some '\x0b'
  | 'f' => some '\x0c'
  | 'r' => some '\r'
  | 'e' => some '\x1b'
  | ' ' => some ' '
  | '"' => some '"'
  | '/' => some '/'
  | '\\' => some '\\'
  | 'N' => some '\x85'
  | '_' => some '\xa0'
  | 'L' => some '\u2028'
  | 'P' => some '\u2029'
  | _ => none

/-- The number of hexadecimal digits behind a backslash and a letter. -/
def escapeLength? : Char → Option Nat
  | 'x' => some 2
  | 'u' => some 4
  | 'U' => some 8
  | _ => none

/-- The character whose code point is written in hexadecimal digits. -/
def charOfHex? (digits : List Char) : Option Char := do
  let values ← digits.mapM Text.hexValue?
  let n := values.foldl (fun n d => 16 * n + d) 0
  if n.isValidChar then some (Char.ofNat n) else none

/-- The characters of a double-quoted scalar up to a gap, a quote or an escaped line end, and the
place there. -/
def doubleRun : Nat → Cursor → Option (List Char × Cursor)
  | 0, c => some ([], c)
  | fuel + 1, c =>
      match c.rest with
      | [] => some ([], c)
      | '\\' :: letter :: rest =>
          if isBreak letter then some ([], c)
          else
            match escapeLength? letter, escape? letter with
            | some n, _ =>
                if rest.length < n then none
                else
                  match charOfHex? (rest.take n) with
                  | none => none
                  | some char =>
                      (doubleRun fuel (c.advance (n + 2))).map fun (text, c) => (char :: text, c)
            | none, some char =>
                (doubleRun fuel (c.advance 2)).map fun (text, c) => (char :: text, c)
            | none, none => none
      | ['\\'] => none
      | char :: _ =>
          if char = '"' || isGap char then some ([], c)
          else (doubleRun fuel (c.advance 1)).map fun (text, c) => (char :: text, c)

/-- The characters of a quoted scalar up to a gap, a quote or an escaped line end. -/
def quotedRun (quote : Char) (c : Cursor) : Option (List Char × Cursor) :=
  if quote = '\'' then
    let (text, n) := singleRun c.rest
    some (text, c.advance n)
  else doubleRun c.rest.length c

/-- The rest of a quoted scalar, read from a place inside it. -/
def quotedRest (quote : Char) : Nat → Cursor → List Char → Option (List Char × Cursor)
  | 0, _, _ => none
  | fuel + 1, c, before =>
      if c.atSeparator || c.rest.isEmpty then none
      else
        match quotedRun quote c with
        | none => none
        | some (run, c) =>
            let before := before ++ run
            if c.isAt quote then some (before, c.advance 1)
            else
              -- only a double-quoted run stops at a backslash, and then a line end follows it
              let (c, gap) :=
                if c.isAt '\\' then ((c.advance 1).skipBreak, Gap.escaped) else (c, Gap.none)
              match gap.readOn (-1) c.rest.length c with
              | none => none
              | some (gap, c) => quotedRest quote fuel c (before ++ gap.text)

/-- **Reads a quoted scalar**, from its opening quote on. -/
def readQuoted (quote : Char) (c : Cursor) : Option (List Char × Cursor) :=
  quotedRest quote (c.rest.length + 1) (c.advance 1) []

end CatalogEntities.Yaml
