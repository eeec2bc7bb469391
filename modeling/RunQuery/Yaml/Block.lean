import RunQuery.Yaml.Text

/-!
# Block scalars of YAML texts

A scalar that is written over whole lines below its header. The header says how lines are joined,
by a bar or an angle bracket, and may say how the line ends after the last line are to be taken and
how far the lines are indented. Where it does not say how far, the first line that is not empty
does.

*Folded* lines are joined by blanks, unless one of them begins with a blank; then, and in a
*literal* scalar, they keep their line ends. Empty lines count as line ends.
-/

namespace RunQuery.Yaml

/-! ## Headers -/

/-- What becomes of the line ends after the last line. -/
inductive Chomping where
  /-- None of them counts. -/
  | strip
  /-- The first one counts. -/
  | clip
  /-- All of them count. -/
  | keep
  deriving DecidableEq

/-- The indicators of a block scalar. -/
structure BlockHeader where
  /-- What becomes of the line ends after the last line. -/
  chomping : Chomping
  /-- How much deeper than their surroundings the lines are indented, if that is said. -/
  increment : Option Nat
  /-- The number of characters of the indicators. -/
  width : Nat

namespace BlockHeader

def chomping? (c : Char) : Option Chomping :=
  if c = '+' then some .keep else if c = '-' then some .strip else none

def increment? (c : Char) : Option Nat := if c.isDigit then some (c.toNat - '0'.toNat) else none

/-- The indicators at the front of a text. An increment of zero is refused. -/
def read? (text : List Char) : Option BlockHeader :=
  let header := match text with
    | a :: b :: _ =>
      match chomping? a, increment? a, chomping? b, increment? b with
      | some c, _, _, some n => ⟨c, some n, 2⟩
      | some c, _, _, none => ⟨c, none, 1⟩
      | none, some n, some c, _ => ⟨c, some n, 2⟩
      | none, some n, none, _ => ⟨.clip, some n, 1⟩
      | none, none, _, _ => ⟨.clip, none, 0⟩
    | [a] =>
      match chomping? a, increment? a with
      | some c, _ => ⟨c, none, 1⟩
      | none, some n => ⟨.clip, some n, 1⟩
      | none, none => ⟨.clip, none, 0⟩
    | [] => ⟨.clip, none, 0⟩
  if header.increment = some 0 then none else some header

end BlockHeader

/-- The number of characters up to the end of a line on which nothing but blanks and a comment may
stand. In the edition of 2009 there is a blank before the comment. -/
def Edition.restOfLine? (edition : Edition) (text : List Char) : Option Nat :=
  let blanks := text.takeWhile isBlank
  match text.dropWhile isBlank with
  | [] => some blanks.length
  | c :: rest =>
    if edition.isBreak c then some blanks.length
    else if c = '#' ∧ (edition = .y2005 ∨ blanks ≠ []) then
      some (blanks.length + 1 + (rest.takeWhile fun c ↦ !edition.isBreak c).length)
    else none

/-! ## Lines -/

/-- The empty lines, and the indent, in front of a line. -/
structure Lead where
  /-- The line ends of the empty lines, the last one first. -/
  breaks : List Char
  /-- The greatest column that blanks lead to. -/
  deepest : Nat
  /-- The column of the line's first character. -/
  column : Nat
  /-- The number of characters taken. -/
  taken : Nat

namespace Lead

/-- At the beginning of a line. -/
def start : Lead := ⟨[], 0, 0, 0⟩

/-- Is there room for an indent below a limit? -/
def belowLimit (lead : Lead) (limit : Option Nat) : Bool := limit.all (lead.column < ·)

/-- What is in front of the next line that is not empty. Blanks from a limit on belong to the line.
In the edition of 2005 tabs below the limit are refused. -/
def read? (edition : Edition) (limit : Option Nat) (lead : Lead) : List Char → Option Lead
  | [] => some { lead with deepest := max lead.deepest lead.column }
  | c :: rest =>
    if c = ' ' ∧ lead.belowLimit limit then
      read? edition limit { lead with column := lead.column + 1, taken := lead.taken + 1 } rest
    else if edition.isBreak c then
      read? edition limit
        ⟨c :: lead.breaks, max lead.deepest lead.column, 0, lead.taken + 1⟩ rest
    else if c = '\t' ∧ edition = .y2005 ∧ lead.belowLimit limit then none
    else some { lead with deepest := max lead.deepest lead.column }

end Lead

/-- What has been read of a block scalar. -/
structure BlockState where
  /-- The text from here on. -/
  rest : List Char
  /-- The column. -/
  column : Nat
  /-- The number of characters taken. -/
  taken : Nat
  /-- The content so far, the last character first. -/
  content : List Char
  /-- The end of the last line. -/
  lineEnd : Option Char
  /-- The line ends of the empty lines after it, the last one first. -/
  breaks : List Char
  /-- Did the last line begin with a blank? -/
  blankFirst : Bool

namespace BlockState

def after (s : BlockState) (lead : Lead) : BlockState :=
  { s with
    rest := s.rest.drop lead.taken
    column := lead.column
    taken := s.taken + lead.taken
    breaks := lead.breaks }

/-- What stands between the last line and one that begins with `c`, the last character first. -/
def joint (s : BlockState) (folded : Bool) (c : Char) : List Char :=
  if folded && s.lineEnd == some '\n' && !s.blankFirst && !isBlank c then
    if s.breaks.isEmpty then [' '] else s.breaks
  else s.breaks ++ s.lineEnd.toList

/-- Take the lines that are indented to a column. -/
def lines? (edition : Edition) (folded : Bool) (indent : Nat) (s : BlockState) :
    Option BlockState :=
  match s.rest with
  | [] => some s
  | c :: _ =>
    if s.column = indent then
      let line := s.rest.takeWhile fun c ↦ !edition.isBreak c
      let content := line.reverse ++ s.joint folded c ++ s.content
      match s.rest.dropWhile fun c ↦ !edition.isBreak c with
      | [] =>
        some ⟨[], s.column + line.length, s.taken + line.length, content, none, [], isBlank c⟩
      | lineEnd :: rest =>
        match Lead.read? edition (some indent) Lead.start rest with
        | none => none
        | some lead =>
          let next := BlockState.after
            ⟨rest, 0, s.taken + line.length + 1, content, some lineEnd, [], isBlank c⟩ lead
          if next.rest.length < s.rest.length then lines? edition folded indent next else none
    -- a lead does not go beyond the indent, so this line lies less deep
    else some s
termination_by s.rest.length

/-- The content with what counts of the line ends after it. In the edition of 2009 a last line that
is not ended counts as ended. -/
def chomped (edition : Edition) (chomping : Chomping) (indent : Nat) (s : BlockState) : List Char :=
  let ended := if edition = .y2009 ∧ s.rest = [] ∧ max indent 1 ≤ s.column then ['\n'] else []
  let final := match chomping with
    | .strip => []
    | .clip => ended ++ s.lineEnd.toList
    | .keep => s.breaks ++ ended ++ s.lineEnd.toList
  (final ++ s.content).reverse

end BlockState

/-! ## Whole scalars -/

/-- The indent of the lines, given the least one and how deep the first lines are. -/
def Edition.blockIndent (edition : Edition) (least deepest : Nat) : Nat :=
  match edition with
  | .y2005 => max deepest (max least 1)
  | .y2009 => max deepest least

/-- The content of a block scalar without a line, where the text ends after a lead. -/
def emptyBlock (chomping : Chomping) (headerEnded : Bool) (breaks : List Char) : List Char :=
  if chomping = .strip ∨ !headerEnded then []
  else if chomping = .clip ∨ breaks = [] then ['\n']
  else breaks.reverse

/-- The content of a block scalar whose indicators are next, and the number of characters up to what
follows it. The least column of its lines is given. -/
def blockScalar? (edition : Edition) (folded : Bool) (least : Nat) (text : List Char) :
    Option (List Char × Nat) := do
  let header ← BlockHeader.read? text
  let width := header.width + (← edition.restOfLine? (text.drop header.width))
  let (ended, rest) := match text.drop width with
    | [] => (false, [])
    | _ :: rest => (true, rest)
  let taken := if ended then width + 1 else width
  if edition = .y2009 ∧ rest.head? = some '\t' then none
  let limit := header.increment.map fun n ↦ least - 1 + n
  let lead ← Lead.read? edition limit Lead.start rest
  let indent := limit.getD (edition.blockIndent least lead.deepest)
  let s : BlockState := BlockState.after ⟨rest, 0, taken, [], none, [], false⟩ lead
  if edition = .y2009 then
    if s.rest = [] then
      return (emptyBlock header.chomping ended s.breaks, s.taken)
    else if s.column < indent ∧ least ≤ s.column then none
  let s ← s.lines? edition folded indent
  return (s.chomped edition header.chomping indent, s.taken)

end RunQuery.Yaml
