import CatalogEntities.Yaml.Token.Block
import CatalogEntities.Yaml.Token.Flow
import CatalogEntities.Yaml.Token.Mark

/-!
# `Yaml/Token/Lexer.lean` — from text to tokens

Most tokens stand in the text. Three do not: a block begins where a line is indented deeper than
the block around it, it ends where a line is indented less, and what turns out to be a key was
written without a mark. The last makes reading look ahead: a scalar, a reference or a bracketed
collection may be a **candidate** for a key, and the token of the key, with that of the mapping it
may begin, belongs *before* it once the colon is found. A candidate must find its colon on the same
line and within 1024 bytes.

So tokens wait in a queue, and the first of the queue is delivered only when it is no candidate any
more. Where the text turns out to be malformed, the tokens delivered up to that point still count;
`Token.scan` answers exactly these. A list of tokens that does not end with `Token.streamEnd` is
that of a malformed text.
-/

set_option autoImplicit false

namespace CatalogEntities.Yaml

/-- **A candidate for a key**: a token that a colon may yet turn into one, with the place where it
began. -/
structure Candidate where
  /-- The number of its token, counted from the beginning of the text. -/
  number : Nat
  /-- Whether it must be a key, since it stands where a block mapping goes on. -/
  required : Bool
  index : Nat
  line : Nat
  column : Nat

/-- **The state of reading tokens**: where reading is, what it still holds back, and the blocks and
brackets that are open around the place. -/
structure Lexer where
  cursor : Cursor
  /-- Tokens that were read and not delivered yet. -/
  queue : List Token
  delivered : Nat
  /-- The indentation of the innermost block, and of those around it; -1 outside of all. -/
  indent : Int
  outer : List Int
  /-- Whether a key without a mark may begin here. -/
  keyAllowed : Bool
  candidate : Option Candidate
  /-- The candidates inside brackets, one for each pair that is open, the innermost first. -/
  inner : List (Option Candidate)

namespace Lexer

def start (text : List Char) : Lexer :=
  ⟨.start text, [], 0, -1, [], true, none, []⟩

def inFlow (l : Lexer) : Bool := !l.inner.isEmpty

/-- All candidates, from the outermost on. -/
def candidates (l : Lexer) : List Candidate :=
  (l.candidate :: l.inner.reverse).filterMap id

def top (l : Lexer) : Option Candidate :=
  match l.inner with
  | [] => l.candidate
  | c :: _ => c

def setTop (l : Lexer) (c : Option Candidate) : Lexer :=
  match l.inner with
  | [] => { l with candidate := c }
  | _ :: rest => { l with inner := c :: rest }

def push (l : Lexer) (t : Token) : Lexer := { l with queue := l.queue ++ [t] }

def insertAt (l : Lexer) (number : Nat) (ts : List Token) : Lexer :=
  let n := number - l.delivered
  { l with queue := l.queue.take n ++ ts ++ l.queue.drop n }

/-! ## Candidates -/

/-- The greatest length of a key without a mark, in bytes. -/
def keyLimit : Nat := 1024

/-- Whether a candidate can no longer find its colon. -/
def isStale (l : Lexer) (c : Candidate) : Bool :=
  c.line < l.cursor.line || c.index + keyLimit < l.cursor.index

/-- Gives up candidates that can no longer find their colons; a required one must not be given
up. -/
def dropStale (l : Lexer) : Option Lexer :=
  if l.candidates.any fun c => l.isStale c && c.required then none
  else
    let keep := Option.filter fun c => !l.isStale c
    some { l with candidate := keep l.candidate, inner := l.inner.map keep }

def dropTop (l : Lexer) : Option Lexer :=
  if l.top.any (·.required) then none else some (l.setTop none)

/-- Makes the coming token a candidate, if a key may begin here. -/
def saveCandidate (l : Lexer) : Option Lexer :=
  if !l.keyAllowed then some l
  else
    let c := l.cursor
    l.dropTop.map (·.setTop (some
      { number := l.delivered + l.queue.length
        required := !l.inFlow && l.indent = c.column
        index := c.index, line := c.line, column := c.column }))

/-! ## Blocks -/

/-- Ends blocks that are indented deeper than a column; the list holds the indentations of the
blocks around the innermost. -/
def endBlocksFrom (column : Int) : List Int → Lexer → Lexer
  | [], l => l
  | i :: rest, l =>
      if column < l.indent then
        endBlocksFrom column rest { l.push .blockEnd with indent := i, outer := rest }
      else l

/-- Ends the blocks that are indented deeper than a column; brackets end none. -/
def endBlocks (l : Lexer) (column : Int) : Lexer :=
  if l.inFlow then l else endBlocksFrom column l.outer l

/-- Begins a block at a column, unless one is there or brackets are open; its token belongs before
the token of a number. -/
def beginBlock (l : Lexer) (column : Nat) (number : Nat) (t : Token) : Lexer :=
  if l.inFlow || (column : Int) ≤ l.indent then l
  else { l.insertAt number [t] with indent := column, outer := l.indent :: l.outer }

def nextNumber (l : Lexer) : Nat := l.delivered + l.queue.length

/-! ## One token -/

def mark (l : Lexer) (keyAllowed : Bool) (t : Token) : Lexer :=
  { l with cursor := l.cursor.advance 1, keyAllowed }.push t

/-- The end of the text, which also ends its last line. -/
def readEnd (l : Lexer) : Option Lexer := do
  let l ← (l.endBlocks (-1)).dropTop
  let c := l.cursor
  let cursor := if c.column = 0 then c else { c with line := c.line + 1, column := 0 }
  some ({ l with cursor, keyAllowed := false }.push .streamEnd)

def readSeparator (l : Lexer) (t : Token) : Option Lexer := do
  let l ← (l.endBlocks (-1)).dropTop
  some ({ l with cursor := l.cursor.advance 3, keyAllowed := false }.push t)

def readDirectiveLine (l : Lexer) : Option Lexer := do
  let l ← (l.endBlocks (-1)).dropTop
  let (t, cursor) ← readDirective l.cursor
  some ({ l with cursor, keyAllowed := false }.push t)

def openFlow (l : Lexer) (t : Token) : Option Lexer := do
  let l ← l.saveCandidate
  some ({ l with inner := none :: l.inner }.mark true t)

def closeFlow (l : Lexer) (t : Token) : Option Lexer := do
  let l ← l.dropTop
  some ({ l with inner := l.inner.drop 1 }.mark false t)

def readComma (l : Lexer) : Option Lexer := do
  let l ← l.dropTop
  some (l.mark true .flowEntry)

def readHyphen (l : Lexer) : Option Lexer := do
  if !l.inFlow && !l.keyAllowed then none
  else
    let l ← (l.beginBlock l.cursor.column l.nextNumber .blockSequenceStart).dropTop
    some (l.mark true .blockEntry)

def readKey (l : Lexer) : Option Lexer := do
  if !l.inFlow && !l.keyAllowed then none
  else
    let l ← (l.beginBlock l.cursor.column l.nextNumber .blockMappingStart).dropTop
    some (l.mark (!l.inFlow) .key)

/-- A colon before a value: it makes the candidate a key, or begins a value without a key. -/
def readColon (l : Lexer) : Option Lexer :=
  match l.top with
  | some c =>
      let l := (l.insertAt c.number [.key]).beginBlock c.column c.number .blockMappingStart
      some ((l.setTop none).mark false .value)
  | none =>
      if !l.inFlow && !l.keyAllowed then none
      else
        let l := l.beginBlock l.cursor.column l.nextNumber .blockMappingStart
        some (l.mark (!l.inFlow) .value)

/-- The name of an anchor, or a reference to one. -/
def readName (l : Lexer) (t : String → Token) : Option Lexer := do
  let l ← l.saveCandidate
  let (name, cursor) ← readAnchor l.cursor
  some ({ l with cursor, keyAllowed := false }.push (t name))

def readTagMark (l : Lexer) : Option Lexer := do
  let l ← l.saveCandidate
  let (t, cursor) ← readTag l.inFlow l.cursor
  some ({ l with cursor, keyAllowed := false }.push t)

/-- A block scalar, behind which a key may begin. -/
def readBlockScalar (l : Lexer) (style : Style) : Option Lexer := do
  let l ← l.dropTop
  let (text, cursor) ← readBlock (style = .literal) l.indent (l.cursor.advance 1)
  some ({ l with cursor, keyAllowed := true }.push (.scalar style (String.ofList text)))

def readQuotedScalar (l : Lexer) (style : Style) (quote : Char) : Option Lexer := do
  let l ← l.saveCandidate
  let (text, cursor) ← readQuoted quote l.cursor
  some ({ l with cursor, keyAllowed := false }.push (.scalar style (String.ofList text)))

/-- A plain scalar; a key may begin behind it if it ends with its line. -/
def readPlainScalar (l : Lexer) : Option Lexer := do
  let l ← l.saveCandidate
  let s ← readPlain l.inFlow (l.indent + 1) l.cursor
  some ({ l with cursor := s.cursor, keyAllowed := s.broken }.push
    (.scalar .plain (String.ofList s.text)))

/-- Whether a character begins a plain scalar, whatever follows it. -/
def startsPlain (c : Char) : Bool :=
  !(isGap c || "-?:,[]\x7b\x7d#&*!|>'\"%@`".toList.contains c)

/-- **Skips to the next token**: blanks, comments and line ends. A new line allows a key outside of
brackets. A tab is not skipped where a key may begin. A byte order mark is skipped at the beginning
of every line, where it takes up a column. -/
def skipGap : Nat → Lexer → Lexer
  | 0, l => l
  | fuel + 1, l =>
      let c := l.cursor
      let c := if c.column = 0 && c.isAt byteOrderMark then c.advance 1 else c
      -- a tab is no indentation: outside of brackets it stays where a key may begin
      let c := c.skipWhile fun d => d = ' ' || (d = '\t' && (l.inFlow || !l.keyAllowed))
      let c := if c.isAt '#' then c.skipWhile (!isBreak ·) else c
      if c.sees isBreak then
        skipGap fuel { l with cursor := c.skipBreak, keyAllowed := l.keyAllowed || !l.inFlow }
      else { l with cursor := c }

/-- Reads the token that begins with a character. Marks that need a gap behind them come before the
plain scalars that may begin with the same character. -/
def readFrom (l : Lexer) (char : Char) : Option Lexer :=
  let c := l.cursor
  if c.column = 0 && char = '%' then l.readDirectiveLine
  else if c.atSeparator then
    l.readSeparator (if char = '-' then .documentStart else .documentEnd)
  else if char = '[' then l.openFlow .flowSequenceStart
  else if char = '{' then l.openFlow .flowMappingStart
  else if char = ']' then l.closeFlow .flowSequenceEnd
  else if char = '}' then l.closeFlow .flowMappingEnd
  else if char = ',' then l.readComma
  else if char = '-' && c.gapAfter 1 then l.readHyphen
  else if char = '?' && (l.inFlow || c.gapAfter 1) then l.readKey
  else if char = ':' && (l.inFlow || c.gapAfter 1) then l.readColon
  else if char = '*' then l.readName .alias
  else if char = '&' then l.readName .anchor
  else if char = '!' then l.readTagMark
  else if char = '|' && !l.inFlow then l.readBlockScalar .literal
  else if char = '>' && !l.inFlow then l.readBlockScalar .folded
  else if char = '\'' then l.readQuotedScalar .singleQuoted '\''
  else if char = '"' then l.readQuotedScalar .doubleQuoted '"'
  else if startsPlain char || char = '-' || (!l.inFlow && (char = '?' || char = ':')) then
    l.readPlainScalar
  else none

/-- **Reads one token**, with the beginnings and ends of blocks before it. -/
def read (l : Lexer) : Option Lexer :=
  match (skipGap (l.cursor.rest.length + 1) l).dropStale with
  | none => none
  | some l =>
      let l := l.endBlocks l.cursor.column
      match l.cursor.next? with
      | none => l.readEnd
      | some char => l.readFrom char

/-- **All tokens that are delivered**: those of the whole text, or those before the place where it
is malformed. Every round reads a token or delivers one. -/
def deliver : Nat → Lexer → List Token
  | 0, _ => []
  | fuel + 1, l =>
      match l.queue with
      | [] =>
          match l.read with
          | some l => deliver fuel l
          | none => []
      | t :: rest =>
          match l.dropStale with
          | none => []
          | some l =>
              -- the first token may still become a key, so it has to wait
              if l.candidates.any (·.number = l.delivered) then
                match l.read with
                | some l => deliver fuel l
                | none => []
              else if t = .streamEnd then [t]
              else t :: deliver fuel { l with queue := rest, delivered := l.delivered + 1 }

end Lexer

/-- **The tokens of a text.** A text with a character that must not occur has none. Each character
makes for few tokens at most, so the number of rounds is bounded by the length. -/
def Token.scan (text : List Char) : List Token :=
  if text.all isAllowed then Lexer.deliver (10 * text.length + 20) (.start text) else []

end CatalogEntities.Yaml
