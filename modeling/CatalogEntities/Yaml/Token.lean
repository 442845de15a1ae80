/-!
# `Yaml/Token.lean` — the tokens of a document

A document is read as a row of tokens: marks that stand in the text, and the beginnings and ends of
blocks, which follow from the layout. Scalars are already free of their quotes, escapes and folds.

After this stage the layout is gone: a document in block style and one in brackets differ in the
names of their tokens only. How a scalar was written is kept, since a quoted `true` is text and a
plain one is not.
-/

set_option autoImplicit false

namespace CatalogEntities.Yaml

/-- **How a scalar is written.** -/
inductive Style
  | plain
  | singleQuoted
  | doubleQuoted
  | literal
  | folded
  deriving Repr, DecidableEq

/-- **A token.** The marks `key` and `value` appear also where the text has no mark for them: the
lexer puts a key in front of whatever turned out to be one. -/
inductive Token
  | streamEnd
  | versionDirective (major minor : Nat)
  | tagDirective (handle beginning : String)
  | documentStart
  | documentEnd
  | blockSequenceStart
  | blockMappingStart
  | blockEnd
  | flowSequenceStart
  | flowSequenceEnd
  | flowMappingStart
  | flowMappingEnd
  | blockEntry
  | flowEntry
  | key
  | value
  | alias (name : String)
  | anchor (name : String)
  /-- A tag, in two parts: a handle and what follows it. -/
  | tag (handle suffix : String)
  | scalar (style : Style) (text : String)
  deriving Repr, DecidableEq

end CatalogEntities.Yaml
