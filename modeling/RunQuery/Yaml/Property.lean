import RunQuery.Yaml.Text

/-!
# Anchors, tags and directives of YAML texts

What can be said of a node in front of it: an anchor is a name under which the node can stand again
elsewhere, a tag says of what kind it is. A tag is written as a handle and a suffix. Handles are
short for the beginnings of longer names; which ones, directives at the head of a document say.

The functions here read from the first character after the mark that introduces what they read, and
say how many characters they took.
-/

namespace RunQuery.Yaml

/-! ## Anchors -/

namespace Edition

/-- May the character stand in the name of an anchor? -/
def isAnchorChar (edition : Edition) (c : Char) : Bool :=
  match edition with
  | y2005 => isWordChar c
  | y2009 => !isBlank c && !edition.isBreak c && !isFlowMark c && c != '\uFEFF'

def anchorEnds (edition : Edition) (rest : List Char) : Bool :=
  edition == y2009 || edition.atBlank rest || rest.head?.any ("?:,]\x7d%@\x60".contains ·)

/-- The name of the anchor at the front. -/
def anchor? (edition : Edition) (text : List Char) : Option (List Char) :=
  let name := text.takeWhile edition.isAnchorChar
  if name ≠ [] ∧ edition.anchorEnds (text.drop name.length) then some name else none

/-! ## Characters of tags -/

/-- May the character stand in a whole tag between angle brackets, or in what a handle is short
for? -/
def isTagChar (edition : Edition) (c : Char) : Bool :=
  isWordChar c || ";/?:@&=+$.%!~*'(),[]".contains c || (edition == y2009 && c == '#')

/-- May the character stand in the suffix of a tag? -/
def isSuffixChar (edition : Edition) (c : Char) : Bool :=
  edition.isTagChar c && !isFlowMark c && (edition == y2005 || c != '!')

/-- The number of bytes of a character whose first byte this is. -/
def byteWidth? (byte : Nat) : Option Nat :=
  if byte < 0x80 then some 1
  else if 0xC0 ≤ byte ∧ byte < 0xE0 then some 2
  else if 0xE0 ≤ byte ∧ byte < 0xF0 then some 3
  else if 0xF0 ≤ byte ∧ byte < 0xF8 then some 4
  else none

/-- The character that escaped bytes write. In the edition of 2009 the bytes as they are, one after
another, are the digits of its code point. -/
def escapedChar? (edition : Edition) (bytes : List Nat) : Option Char :=
  match edition with
  | y2005 =>
    let bits := match bytes with
      | [byte] => byte
      | first :: further =>
        further.foldl (fun n byte ↦ 0x40 * n + byte % 0x40) (first % Nat.pow 2 (7 - bytes.length))
      | [] => 0
    some (if bits.isValidChar then Char.ofNat bits else '\uFFFD')
  | y2009 =>
    let bits := bytes.foldl (fun n byte ↦ 0x100 * n + byte) 0
    if bits.isValidChar then some (Char.ofNat bits) else none

/-- The characters that a piece of a tag stands for, given the bytes of an unfinished escaped
character and how many are missing. -/
def unescape? (edition : Edition) (bytes : List Nat) (missing : Nat) :
    List Char → Option (List Char)
  | [] => if missing = 0 then some [] else none
  | '%' :: a :: b :: rest => do
    let byte ← Unicode.hexNumber? [a, b]
    let missing ← if missing = 0 then byteWidth? byte
      else if 0x80 ≤ byte ∧ byte < 0xC0 then some missing else none
    let bytes := bytes ++ [byte]
    if missing = 1 then
      return (← edition.escapedChar? bytes) :: (← unescape? edition [] 0 rest)
    else unescape? edition bytes (missing - 1) rest
  | c :: rest =>
    if c = '%' ∨ missing ≠ 0 then none else (unescape? edition [] 0 rest).map (c :: ·)

/-- The piece of a tag at the front, of the given characters, and the number of characters it
takes. -/
def piece? (edition : Edition) (isChar : Char → Bool) (text : List Char) :
    Option (List Char × Nat) :=
  let written := text.takeWhile isChar
  (edition.unescape? [] 0 written).map fun piece ↦ (piece, written.length)

end Edition

/-! ## Tags -/

/-- A tag as written. -/
structure TagName where
  /-- The handle, with its marks. -/
  handle : String
  /-- What follows the handle. -/
  suffix : String
  deriving DecidableEq

namespace Edition

/-- The tag between angle brackets whose first character is next. -/
def wholeTag? (edition : Edition) (text : List Char) : Option (TagName × Nat) := do
  let (name, taken) ← edition.piece? edition.isTagChar text
  if edition = y2005 ∧ name = [] then none
  if (text.drop taken).head? = some '>' then return (⟨"", String.ofList name⟩, taken + 1) else none

/-- The tag after its exclamation mark, written by handle and suffix. A tag without a handle has the
handle of a single mark; a mark alone is a suffix. -/
def shortTag? (edition : Edition) (text : List Char) : Option (TagName × Nat) :=
  let word := text.takeWhile isWordChar
  match text.drop word.length with
  | '!' :: rest => do
    let (suffix, taken) ← edition.piece? edition.isSuffixChar rest
    if suffix = [] then none
    else return (⟨String.ofList ('!' :: word ++ ['!']), String.ofList suffix⟩,
      word.length + 1 + taken)
  | rest => do
    let (more, taken) ← edition.piece? edition.isSuffixChar rest
    let suffix := word ++ more
    return (if suffix = [] then ⟨"", "!"⟩ else ⟨"!", String.ofList suffix⟩, word.length + taken)

def tagEnds (edition : Edition) (inFlow : Bool) (rest : List Char) : Bool :=
  edition.atBlank rest ||
    (inFlow && rest.head?.any fun c ↦ if edition = y2005 then c == ',' else isFlowMark c)

/-- The tag after its exclamation mark. -/
def tag? (edition : Edition) (inFlow : Bool) (text : List Char) : Option (TagName × Nat) := do
  let (name, taken) ← match text with
    | '<' :: rest => (edition.wholeTag? rest).map fun (name, taken) ↦ (name, taken + 1)
    | text => edition.shortTag? text
  if edition.tagEnds inFlow (text.drop taken) then return (name, taken) else none

end Edition

/-! ## Directives -/

/-- What is said at the head of a document. -/
inductive Directive where
  /-- The version of YAML. -/
  | version (major minor : Nat)
  /-- What a handle is short for. -/
  | tag (handle beginning : String)
  /-- Something else. -/
  | other
  deriving DecidableEq

namespace Edition

/-- A number of at most nine digits at the front, and how many there are. -/
def versionNumber? (text : List Char) : Option (Nat × Nat) :=
  let digits := text.takeWhile Char.isDigit
  if digits = [] ∨ 9 < digits.length then none
  else some (digits.foldl (fun n c ↦ 10 * n + (c.toNat - '0'.toNat)) 0, digits.length)

def version? (text : List Char) : Option (Directive × Nat) := do
  let (major, width) ← versionNumber? text
  match text.drop width with
  | '.' :: rest =>
    let (minor, further) ← versionNumber? rest
    return (.version major minor, width + 1 + further)
  | _ => none

/-- What a handle is short for, where that is next. In the edition of 2009 it begins with a mark or
a character of a suffix. -/
def beginning? (edition : Edition) (text : List Char) : Option (List Char × Nat) := do
  if edition = y2009 ∧ !text.head?.any fun c ↦ c == '!' || edition.isSuffixChar c then none
  let (piece, taken) ← edition.piece? edition.isTagChar text
  if piece = [] then none else return (piece, taken)

/-- What a directive says about a handle. -/
def handle? (edition : Edition) (text : List Char) : Option (Directive × Nat) :=
  match text with
  | '!' :: rest =>
    let word := rest.takeWhile isWordChar
    let close := (rest.drop word.length).head? = some '!'
    let width := word.length + if close then 2 else 1
    let handle := String.ofList (text.take width)
    let rest := text.drop width
    let blanks := (rest.takeWhile isBlank).length
    if (!close ∧ word ≠ []) ∨ (edition = y2005 ∧ blanks = 0) then none
    else do
      let (beginning, taken) ← edition.beginning? (rest.drop blanks)
      if edition.atBlank (rest.drop (blanks + taken)) then
        return (.tag handle (String.ofList beginning), width + blanks + taken)
      else none
  | _ => none

/-- The directive after its percent sign, up to the end of its line. Only the edition of 2009 takes
directives that it does not know. -/
def directive? (edition : Edition) (text : List Char) : Option (Directive × Nat) := do
  let name := text.takeWhile isWordChar
  let rest := text.drop name.length
  if name = [] ∨ !edition.atBlank rest then none
  let blanks := (rest.takeWhile isBlank).length
  let (directive, taken) ← match String.ofList name with
    | "YAML" => (version? (rest.drop blanks)).map fun (d, n) ↦ (d, blanks + n)
    | "TAG" => (edition.handle? (rest.drop blanks)).map fun (d, n) ↦ (d, blanks + n)
    | _ =>
      if edition = y2009 then some (.other, (rest.takeWhile fun c ↦ !edition.isBreak c).length)
      else none
  return (directive, name.length + taken)

end Edition

end RunQuery.Yaml
