import RunQuery.Yaml.Text

/-!
# Scalars of YAML texts

The pieces of text in a YAML document: bare ones, which are called plain, and those between single
or double quotes. A scalar may run over several lines. What separates two of its lines is a *gap*:
a single line end counts as one blank, and of several line ends the first one does not count. A line
end of Unicode always counts as itself. Blanks at the ends of a line never count, apart from those
before an escaped line end.

The functions here read from the first character of the scalar's content on and say how many
characters they took. They get the column that the scalar may not fall short of in further lines.
-/

namespace RunQuery.Yaml

/-! ## Gaps -/

/-- Blanks and line ends between two pieces of a scalar. -/
structure Gap where
  /-- The blanks before the first line end, the last one first. -/
  blanks : List Char
  /-- The line ends, the last one first. -/
  breaks : List Char
  /-- Did an escaped line end come first? That one is not among the line ends. -/
  escaped : Bool

namespace Gap

/-- No gap. -/
def none : Gap := ⟨[], [], false⟩

/-- Is the gap still on the line on which it began? -/
def onLine (g : Gap) : Bool := g.breaks.isEmpty && !g.escaped

def isEmpty (g : Gap) : Bool := g.onLine && g.blanks.isEmpty

def addBlank (g : Gap) (c : Char) : Gap :=
  if g.onLine then { g with blanks := c :: g.blanks } else g

/-- The gap with one more line end. -/
def addBreak (g : Gap) (c : Char) : Gap := { g with blanks := [], breaks := c :: g.breaks }

/-- What line ends stand for, the last one first. -/
def foldBreaks : List Char → List Char
  | ['\n'] => [' ']
  | breaks => if breaks.getLast? = some '\n' then breaks.dropLast else breaks

/-- What the gap stands for, the last character first. -/
def folded (g : Gap) : List Char :=
  if g.onLine then g.blanks else if g.escaped then g.breaks else foldBreaks g.breaks

end Gap

/-- What has been read of a scalar. -/
structure ScalarState where
  /-- The content so far without the gap after it, the last character first. -/
  content : List Char
  /-- The gap after it. -/
  gap : Gap
  /-- The column of the next character. -/
  column : Nat
  /-- The number of characters taken. -/
  taken : Nat

namespace ScalarState

/-- Before the first character, which stands in the given column. -/
def start (column : Nat) : ScalarState := ⟨[], Gap.none, column, 0⟩

def blank (s : ScalarState) (c : Char) : ScalarState :=
  { s with gap := s.gap.addBlank c, column := s.column + 1, taken := s.taken + 1 }

def lineEnd (s : ScalarState) (c : Char) : ScalarState :=
  { s with gap := s.gap.addBreak c, column := 0, taken := s.taken + 1 }

/-- Take characters that stand for one character of the content. -/
def char (s : ScalarState) (c : Char) (width : Nat) : ScalarState :=
  ⟨c :: s.gap.folded ++ s.content, Gap.none, s.column + width, s.taken + width⟩

def escapedLineEnd (s : ScalarState) : ScalarState :=
  ⟨s.gap.folded ++ s.content, ⟨[], [], true⟩, 0, s.taken + 2⟩

/-- The content up to a closing quote. -/
def closed (s : ScalarState) : List Char := (s.gap.folded ++ s.content).reverse

/-- Does the next character stand on a further line, short of a column? -/
def shortOf (s : ScalarState) (column : Nat) : Bool := !s.gap.onLine && s.column < column

end ScalarState

/-! ## Plain scalars -/

namespace Edition

/-- Does a colon with `rest` after it end a plain scalar? -/
def colonEnds (edition : Edition) (inFlow : Bool) (rest : List Char) : Bool :=
  edition.atBlank rest || (edition == y2009 && inFlow && rest.head?.any isFlowMark)

/-- Is a character within a plain scalar refused, with `rest` after it? Within brackets it is a
colon before a mark in the edition of 2005, and a piece that begins with a hyphen before a mark in
that of 2009. -/
def refusesInPlain (edition : Edition) (inFlow begins : Bool) (c : Char) (rest : List Char) :
    Bool :=
  inFlow &&
    match edition with
    | y2005 => c == ':' && rest.head?.any fun c ↦ isFlowMark c || c == '?'
    | y2009 => begins && c == '-' && rest.head?.any isFlowMark

/-- Is a tab in the indent of a line refused, with `rest` after it? -/
def refusesTab (edition : Edition) (rest : List Char) : Bool :=
  match edition with
  | y2005 => true
  | y2009 =>
    match rest.dropWhile isBlank with
    | [] => false
    | c :: _ => c != '\n' && c != '#'

end Edition

/-- Does a plain scalar end before the character `c`, with `rest` after it? -/
def endsPlain (edition : Edition) (inFlow : Bool) (indent : Nat) (s : ScalarState) (c : Char)
    (rest : List Char) : Bool :=
  (!s.gap.onLine &&
    ((s.column == 0 && edition.atMarker (c :: rest)) || (!inFlow && s.column < indent))) ||
    (c == '#' && !s.gap.isEmpty) || (c == ':' && edition.colonEnds inFlow rest) ||
    (inFlow && isFlowMark c)

/-- The state after a plain scalar and the gap that follows it. -/
def plain? (edition : Edition) (inFlow : Bool) (indent : Nat) (s : ScalarState) :
    List Char → Option ScalarState
  | [] => some s
  | c :: rest =>
    if edition.isBreak c then plain? edition inFlow indent (s.lineEnd c) rest
    else if isBlank c then
      if c == '\t' && s.shortOf indent && edition.refusesTab rest then none
      else plain? edition inFlow indent (s.blank c) rest
    else if endsPlain edition inFlow indent s c rest then some s
    else if edition.refusesInPlain inFlow (s.taken == 0 || !s.gap.isEmpty) c rest then none
    else plain? edition inFlow indent (s.char c 1) rest

/-! ## Quoted scalars -/

/-- Is a character that is no line end refused because it stands short of the indent in a further
line? Only the edition of 2009 looks. -/
def strays (edition : Edition) (indent : Nat) (s : ScalarState) (c : Char) : Bool :=
  edition == .y2009 && c != ' ' && s.shortOf indent

/-- The content of a scalar between single quotes, up to the closing one, and the number of
characters taken, the closing quote included. A quote is written twice. -/
def singleQuoted? (edition : Edition) (indent : Nat) (s : ScalarState) :
    List Char → Option (List Char × Nat)
  | [] => none
  | c :: rest =>
    if edition.isBreak c then singleQuoted? edition indent (s.lineEnd c) rest
    else if strays edition indent s c then none
    else if isBlank c then singleQuoted? edition indent (s.blank c) rest
    else if c = '\'' then
      match rest with
      | '\'' :: rest => singleQuoted? edition indent (s.char '\'' 2) rest
      | _ => some (s.closed, s.taken + 1)
    else if s.column == 0 && edition.atMarker (c :: rest) then none
    else singleQuoted? edition indent (s.char c 1) rest

/-- The character that a backslash and a letter stand for. -/
def shortEscape? (c : Char) : Option Char :=
  match c with
  | '0' => some '\x00'
  | 'a' => some '\x07'
  | 'b' => some '\x08'
  | 't' => some '\t'
  | '\t' => some '\t'
  | 'n' => some '\n'
  | 'v' => some '\x0b'
  | 'f' => some '\x0c'
  | 'r' => some '\r'
  | 'e' => some '\x1b'
  | ' ' => some ' '
  | '"' => some '"'
  | '/' => some '/'
  | '\\' => some '\\'
  | 'N' => some '\u0085'
  | '_' => some '\u00a0'
  | 'L' => some '\u2028'
  | 'P' => some '\u2029'
  | _ => none

def codePoint? (digits : List Char) : Option Char :=
  (Unicode.hexNumber? digits).bind fun n ↦ if n.isValidChar then some (Char.ofNat n) else none

/-- The content of a scalar between double quotes, up to the closing one, and the number of
characters taken, the closing quote included. -/
def doubleQuoted? (edition : Edition) (indent : Nat) (s : ScalarState) :
    List Char → Option (List Char × Nat)
  | [] => none
  | c :: rest =>
    if edition.isBreak c then doubleQuoted? edition indent (s.lineEnd c) rest
    else if strays edition indent s c then none
    else if isBlank c then doubleQuoted? edition indent (s.blank c) rest
    else if c = '"' then some (s.closed, s.taken + 1)
    else if c = '\\' then
      match rest with
      | 'x' :: a :: b :: rest =>
        (codePoint? [a, b]).bind fun c ↦ doubleQuoted? edition indent (s.char c 4) rest
      | 'u' :: a :: b :: c :: d :: rest =>
        (codePoint? [a, b, c, d]).bind fun c ↦ doubleQuoted? edition indent (s.char c 6) rest
      | 'U' :: a :: b :: c :: d :: e :: f :: g :: h :: rest =>
        (codePoint? [a, b, c, d, e, f, g, h]).bind fun c ↦
          doubleQuoted? edition indent (s.char c 10) rest
      | e :: rest =>
        if edition.isBreak e then doubleQuoted? edition indent s.escapedLineEnd rest
        else (shortEscape? e).bind fun c ↦ doubleQuoted? edition indent (s.char c 2) rest
      | [] => none
    else if s.column == 0 && edition.atMarker (c :: rest) then none
    else doubleQuoted? edition indent (s.char c 1) rest

end RunQuery.Yaml
