import RunQuery.Yaml.Property

/-!
# Tokens of YAML texts

A YAML text as a sequence of tokens. Brackets, braces and commas speak for themselves; in block
style the structure is in the indents, and tokens make it explicit: one opens each block list or
mapping, and one closes it.
-/

namespace RunQuery.Yaml

/-- How a scalar is written. -/
inductive Style where
  /-- Bare. -/
  | plain
  /-- Between quotes. -/
  | quoted
  /-- Over lines that keep their line ends. -/
  | literal
  /-- Over lines that are joined. -/
  | folded
  deriving DecidableEq, Repr

/-- A token of a YAML text. -/
inductive Token where
  /-- Something is said at the head of a document. -/
  | directive (d : Directive)
  /-- A document begins. -/
  | documentStart
  /-- A document ends. -/
  | documentEnd
  /-- A list in block style begins. -/
  | blockList
  /-- A mapping in block style begins. -/
  | blockMapping
  /-- A list or mapping in block style ends. -/
  | blockEnd
  /-- An opening bracket. -/
  | listStart
  /-- A closing bracket. -/
  | listEnd
  /-- An opening brace. -/
  | mappingStart
  /-- A closing brace. -/
  | mappingEnd
  /-- The hyphen before an item. -/
  | item
  /-- A comma. -/
  | comma
  /-- A key follows. -/
  | key
  /-- The colon before a value. -/
  | value
  /-- An anchor. -/
  | anchor (name : String)
  /-- The name of an anchored node, which is meant. -/
  | reference (name : String)
  /-- A tag. -/
  | tag (name : TagName)
  /-- A scalar. -/
  | scalar (text : String) (style : Style)
  deriving DecidableEq

end RunQuery.Yaml
