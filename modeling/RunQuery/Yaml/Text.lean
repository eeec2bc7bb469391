import RunQuery.Unicode.Ranges

/-!
# Texts in YAML

YAML has been defined in several editions, and two of them are in use here. They have nearly the
same grammar. They differ in what ends a line, in how strictly indents are checked, and in where a
colon may stand within brackets.

* In the edition of 2005 the line ends of Unicode end lines too, and a text with a control character
  is refused.
* In the edition of 2009 only line feeds and carriage returns end lines. A zero character ends the
  text.
-/

namespace RunQuery.Yaml

/-- The editions of YAML. -/
inductive Edition where
  /-- The edition of 2005, version 1.1. -/
  | y2005
  /-- The edition of 2009, version 1.2. -/
  | y2009
  deriving DecidableEq, Repr

/-! ## Characters -/

/-- Blanks within a line. -/
def isBlank (c : Char) : Bool := c == ' ' || c == '\t'

/-- The characters that have a meaning of their own within brackets and braces. -/
def isFlowMark (c : Char) : Bool :=
  c == ',' || c == '[' || c == ']' || c == '\x7b' || c == '\x7d'

/-- The characters of handles and of the names of directives. -/
def isWordChar (c : Char) : Bool := c.isAlphanum || c == '_' || c == '-'

namespace Edition

/-- Does the character end a line of a prepared text? -/
def isBreak (edition : Edition) (c : Char) : Bool :=
  c == '\n' || (edition == y2005 && (c == '\u2028' || c == '\u2029'))

/-- Does a line end or nothing stand at the front? -/
def atBreak (edition : Edition) (text : List Char) : Bool := text.head?.all edition.isBreak

/-- Does a blank, a line end or nothing stand at the front? -/
def atBlank (edition : Edition) (text : List Char) : Bool :=
  text.head?.all fun c ↦ isBlank c || edition.isBreak c

/-- Does a document marker stand at the front: three hyphens or three points and then a blank? -/
def atMarker (edition : Edition) : List Char → Bool
  | '-' :: '-' :: '-' :: rest => edition.atBlank rest
  | '.' :: '.' :: '.' :: rest => edition.atBlank rest
  | _ => false

/-! ## Whole texts -/

/-- The characters that may stand in a text of the edition of 2005. -/
def isAllowed (c : Char) : Bool :=
  let n := c.toNat
  n == 0x9 || n == 0xA || n == 0xD || (0x20 ≤ n && n ≤ 0x7E) || n == 0x85 ||
    (0xA0 ≤ n && n ≤ 0xFFFD) || 0x10000 ≤ n

/-- The text with line feeds for carriage returns and next-line characters, where these end
lines. -/
def unifyLineEnds (edition : Edition) : List Char → List Char
  | [] => []
  | '\r' :: '\n' :: rest => '\n' :: unifyLineEnds edition rest
  | '\r' :: rest => '\n' :: unifyLineEnds edition rest
  | c :: rest =>
    (if c = '\u0085' ∧ edition = y2005 then '\n' else c) :: unifyLineEnds edition rest

/-- The text as it is scanned, if it may be. -/
def prepare? (edition : Edition) (text : String) : Option (List Char) :=
  match edition with
  | y2005 => if text.toList.all isAllowed then some (unifyLineEnds y2005 text.toList) else none
  | y2009 => some (unifyLineEnds y2009 (text.toList.takeWhile (· != '\x00')))

end Edition

/-! ## Places -/

/-- A place in a text. -/
structure Cursor where
  /-- The text from here on. -/
  rest : List Char
  /-- The line, from 0. -/
  line : Nat
  /-- The column, from 0. -/
  column : Nat
  /-- The number of characters before. -/
  index : Nat
  /-- Are there only blanks on the line before here? -/
  fresh : Bool

namespace Cursor

/-- At the beginning of a text. In the edition of 2005 a byte order mark is passed over there. -/
def start (edition : Edition) (text : List Char) : Cursor :=
  match edition, text with
  | .y2005, '\uFEFF' :: rest => ⟨rest, 0, 1, 1, true⟩
  | _, text => ⟨text, 0, 0, 0, true⟩

/-- The place after the next character. -/
def next (edition : Edition) (place : Cursor) : Cursor :=
  match place.rest with
  | [] => place
  | c :: rest =>
    if edition.isBreak c then ⟨rest, place.line + 1, 0, place.index + 1, true⟩
    else ⟨rest, place.line, place.column + 1, place.index + 1, place.fresh && isBlank c⟩

/-- The place after the next `n` characters. -/
def skip (edition : Edition) (place : Cursor) : Nat → Cursor
  | 0 => place
  | n + 1 => (place.next edition).skip edition n

end Cursor

end RunQuery.Yaml
