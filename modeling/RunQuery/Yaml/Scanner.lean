import RunQuery.Yaml.Block
import RunQuery.Yaml.Scalar
import RunQuery.Yaml.Token

/-!
# Scanning YAML texts

From a text to its tokens.

## Keys

That a node is the key of a mapping shows only at the colon after it. The scanner therefore
remembers, at each depth of brackets, where the last thing began that could be a key, and puts the
token that announces a key in front of it when the colon comes. A key that is announced in this way
stands on one line, within 1024 characters of its colon; in the edition of 2009 that does not hold
within brackets. At the indent of a block mapping there can be nothing but keys, so there a key that
finds no colon is a mistake.

## Indents

A block list or mapping is open as long as nothing stands to the left of its first entry. In the
edition of 2009 what follows a colon or a hyphen has to stand at least one column deeper than that,
even within brackets. A *margin* is an indent of this kind: it opens nothing, and it gives way to
the first real indent or plain scalar.
-/

namespace RunQuery.Yaml

/-! ## The state -/

/-- Where something began that can be a key. -/
structure KeyPlace where
  /-- The number of tokens before it. -/
  tokens : Nat
  /-- The place. -/
  cursor : Cursor
  /-- Is everything else a mistake there? -/
  required : Bool

structure Indent where
  /-- The column. -/
  column : Nat
  /-- Is it one that opens nothing? -/
  margin : Bool

/-- A bracket or brace that is open. -/
structure Bracket where
  /-- Is it a bracket? -/
  square : Bool
  /-- What can be a key around it. -/
  key : Option KeyPlace
  /-- Does an item of a list begin where it stands? -/
  inItem : Bool

/-- The state of the scanner. -/
structure Scanner where
  /-- The edition of YAML. -/
  edition : Edition
  /-- The place that has been reached. -/
  cursor : Cursor
  /-- The tokens so far. -/
  tokens : Array Token
  /-- The indents that are open, the innermost first. -/
  indents : List Indent
  /-- May a key, or an entry in block style, begin here? -/
  keyAllowed : Bool
  /-- What can be a key at this depth of brackets. -/
  key : Option KeyPlace
  /-- Are we in an item between brackets that has no colon or question mark so far? -/
  inItem : Bool
  /-- The brackets and braces that are open, the innermost first. -/
  brackets : List Bracket
  /-- The index at which a colon needs no blank after it. -/
  adjacent : Option Nat

namespace Scanner

def start (edition : Edition) (text : List Char) : Scanner :=
  ⟨edition, Cursor.start edition text, #[], [], true, none, false, [], none⟩

/-- Does the place lie within brackets or braces? -/
def inFlow (s : Scanner) : Bool := !s.brackets.isEmpty

/-- The innermost indent, or zero. -/
def indent (s : Scanner) : Nat := (s.indents.head?.map Indent.column).getD 0

/-- The least column of what belongs to the innermost block list or mapping. -/
def innerIndent (s : Scanner) : Nat := (s.indents.head?.map (·.column + 1)).getD 0

def push (s : Scanner) (t : Token) : Scanner := { s with tokens := s.tokens.push t }

/-- Pass over `n` characters. -/
def skip (s : Scanner) (n : Nat) : Scanner := { s with cursor := s.cursor.skip s.edition n }

/-- Pass over blanks and a comment up to something else on the line. In the edition of 2009 a
comment right here is refused. -/
def skipRest? (s : Scanner) : Option Scanner :=
  let text := s.cursor.rest
  if s.edition = .y2005 then some s
  else if text.head? = some '#' then none
  else some (s.skip ((s.edition.restOfLine? text).getD (text.takeWhile isBlank).length))

/-! ## Indents -/

def withoutMargins (indents : List Indent) : List Indent := indents.dropWhile Indent.margin

/-- Forget the innermost margins. -/
def dropMargins (s : Scanner) : Scanner := { s with indents := withoutMargins s.indents }

/-- Open a margin. Only the edition of 2009 has them. -/
def openMargin (s : Scanner) : Scanner :=
  match s.indents with
  | ⟨column, false⟩ :: _ =>
    if s.edition = .y2005 ∨ s.inFlow then s
    else { s with indents := ⟨column + 1, true⟩ :: s.indents }
  | _ => s

/-- Open a block list or mapping at a column that lies deeper than all others, by the token `t` in
front of token number `index`. -/
def openBlock (s : Scanner) (column index : Nat) (t : Token) : Scanner :=
  if s.inFlow then s
  else
    -- a margin gives way to a block at its column or behind it
    let indents := match s.indents with
      | ⟨margin, true⟩ :: outer => if margin ≤ column then outer else s.indents
      | indents => indents
    if indents.head?.any (column ≤ ·.column) then { s with indents }
    else
      { s with
        indents := ⟨column, false⟩ :: indents
        tokens := s.tokens.insertIdxIfInBounds index t }

def closeIndents (s : Scanner) (closed left : List Indent) : Scanner :=
  let count := (closed.filter (!·.margin)).length
  { s with indents := left, tokens := s.tokens ++ Array.replicate count Token.blockEnd }

/-- Close what lies deeper than the next character. -/
def closeDeeper (s : Scanner) : Scanner :=
  let deeper (i : Indent) : Bool := s.cursor.column < i.column
  if s.inFlow then s
  else s.closeIndents (s.indents.takeWhile deeper) (s.indents.dropWhile deeper)

def closeAll (s : Scanner) : Scanner := if s.inFlow then s else s.closeIndents s.indents []

/-! ## Keys -/

/-- What can still be a key; `none` if it was required to be one. -/
def freshKey? (here : Cursor) : Option KeyPlace → Option (Option KeyPlace)
  | none => some none
  | some k =>
    -- a key without a question mark has its colon on its line, within 1024 characters
    if k.cursor.line < here.line ∨ k.cursor.index + 1024 < here.index then
      if k.required then none else some none
    else some (some k)

/-- Forget what cannot be a key any more. -/
def dropStale? (s : Scanner) : Option Scanner := do
  if s.edition = .y2009 ∧ s.inFlow then some s
  else return { s with
    key := ← freshKey? s.cursor s.key
    brackets := ← s.brackets.mapM fun b ↦ do return { b with key := ← freshKey? s.cursor b.key } }

/-- Forget what could be a key at this depth. -/
def dropKey? (s : Scanner) : Option Scanner :=
  if s.key.any KeyPlace.required then none else some { s with key := none }

/-- Must what begins here be a key? -/
def keyRequired (s : Scanner) : Bool :=
  match s.indents with
  | i :: _ => !s.inFlow && !i.margin && i.column == s.cursor.column
  | [] => false

/-- Remember that something begins here that can be a key, if a key may begin here. -/
def markKey? (s : Scanner) : Option Scanner :=
  if s.keyAllowed then
    (dropKey? s).map fun s ↦ { s with key := some ⟨s.tokens.size, s.cursor, s.keyRequired⟩ }
  else some s

/-! ## Between tokens -/

/-- Is a blank at a place refused? In the edition of 2009 that is a tab in the indent of a line that
is not empty. -/
def refusesBlank (s : Scanner) (place : Cursor) : Bool :=
  s.edition == .y2009 && place.fresh && place.column < s.indent && place.rest.head? == some '\t' &&
    s.edition.refusesTab place.rest.tail

/-- Is a blank no gap? In the edition of 2005 a tab is none where a key may begin, apart from within
brackets. -/
def stopsAt (s : Scanner) (allowed : Bool) (c : Char) : Bool :=
  c == '\t' && s.edition == .y2005 && !s.inFlow && allowed

/-- Pass over blanks, comments and line ends. -/
def skipGap? (s : Scanner) : (inComment : Bool) → List Char → Option Scanner
  | _, [] => some s
  | inComment, c :: rest =>
    if s.edition.isBreak c then
      { s.skip 1 with keyAllowed := s.keyAllowed || !s.inFlow }.skipGap? false rest
    else if inComment || c == '#' then (s.skip 1).skipGap? true rest
    else if s.refusesBlank s.cursor then none
    else if isBlank c && !s.stopsAt s.keyAllowed c then (s.skip 1).skipGap? false rest
    else some s

/-! ## Tokens one by one -/

def takeDirective? (s : Scanner) : Option Scanner := do
  let s ← dropKey? s.closeAll
  let (directive, taken) ← s.edition.directive? s.cursor.rest.tail
  let s := (s.push (.directive directive)).skip (taken + 1)
  return { s.skip (← s.edition.restOfLine? s.cursor.rest) with keyAllowed := false }

/-- Take a document marker. After the end of a document nothing may stand on the line. -/
def takeMarker? (s : Scanner) (t : Token) : Option Scanner := do
  let s ← dropKey? s.closeAll
  let s := (s.push t).skip 3
  if t = .documentEnd ∧ (s.edition.restOfLine? s.cursor.rest).isNone then none
  return { s with keyAllowed := false }

/-- Take an opening bracket or brace. The edition of 2009 lets at most 255 be open. -/
def takeOpening? (s : Scanner) (square : Bool) : Option Scanner := do
  let s ← markKey? s
  if s.edition = .y2009 ∧ 255 ≤ s.brackets.length then none
  let s := { s.openMargin.push (if square then .listStart else .mappingStart) with
    keyAllowed := true
    key := none
    inItem := square
    brackets := ⟨square, s.key, s.inItem⟩ :: s.brackets }
  (s.skip 1).skipRest?

def leaveBracket (s : Scanner) : Scanner :=
  match s.brackets with
  | b :: outer => { s with key := b.key, inItem := b.inItem, brackets := outer }
  | [] => { s with key := none }

def takeClosing? (s : Scanner) (t : Token) : Option Scanner := do
  let s ← dropKey? s
  let s ← ({ (s.push t).leaveBracket with keyAllowed := false }.skip 1).skipRest?
  return { s with adjacent := some s.cursor.index }

def takeComma? (s : Scanner) : Option Scanner := do
  let s ← dropKey? s
  let inItem := s.brackets.head?.any Bracket.square
  ({ s.push .comma with keyAllowed := true, inItem }.skip 1).skipRest?

/-- Is a hyphen that introduces an item next, in the edition of 2009 after a tab? -/
def afterTab (s : Scanner) (blanks : List Char) : Bool :=
  match s.cursor.rest with
  | '-' :: rest => s.edition == .y2009 && blanks.contains '\t' && s.edition.atBlank rest
  | _ => false

def takeItem? (s : Scanner) : Option Scanner := do
  if !s.inFlow && !s.keyAllowed then none
  if s.edition = .y2009 ∧ s.inFlow then none
  let s ← dropKey? (s.openBlock s.cursor.column s.tokens.size .blockList)
  let s := { s.push .item with keyAllowed := true }.skip 1
  let blanks := s.cursor.rest.takeWhile isBlank
  let s ← s.skipRest?
  if s.afterTab blanks then none
  return if s.cursor.rest.head?.any fun c ↦ s.edition.isBreak c || isFlowMark c then s.openMargin
    else s

/-- Is what follows an explicit key's question mark refused? In the edition of 2009 there is a space
or a line end, and no tab after these. -/
def refusesAfterMark (s : Scanner) (rest : List Char) : Bool :=
  let isGap (c : Char) : Bool := c == ' ' || c == '\n'
  s.edition == .y2009 &&
    (!rest.head?.any isGap || (rest.dropWhile isGap).head? == some '\t')

def takeExplicitKey? (s : Scanner) : Option Scanner := do
  if !s.inFlow && !s.keyAllowed then none
  let s ← dropKey? (s.openBlock s.cursor.column s.tokens.size .blockMapping)
  let s := { s.push .key with keyAllowed := !s.inFlow, inItem := false }.skip 1
  if s.refusesAfterMark s.cursor.rest then none
  return s

/-- Is what follows the colon of a value refused? In the edition of 2009 a hyphen or a word is
refused after a tab without a space. -/
def refusesAfterColon (s : Scanner) (rest : List Char) : Bool :=
  s.edition == .y2009 && rest.head? == some '\t' && !(rest.takeWhile isBlank).contains ' ' &&
    (rest.dropWhile isBlank).head?.any isWordChar

/-- Does a key stand too far in front of its colon? In the edition of 2009 the key of an item that
is a single pair is on the line of the colon. -/
def strandedKey (s : Scanner) (k : KeyPlace) : Bool :=
  s.edition == .y2009 && s.inItem && k.cursor.line < s.cursor.line

def takeValue? (s : Scanner) : Option Scanner := do
  if s.refusesAfterColon s.cursor.rest.tail then none
  match s.key with
  | some k =>
    if s.strandedKey k then none
    -- only the colon tells that there was a key, so its token goes in front of others
    let s := { s with tokens := s.tokens.insertIdxIfInBounds k.tokens .key, key := none }
    let s := (s.openBlock k.cursor.column k.tokens .blockMapping).openMargin
    some { (s.push .value).skip 1 with keyAllowed := false, inItem := false }
  | none =>
    if !s.inFlow && !s.keyAllowed then none
    else
      let s := (s.openBlock s.cursor.column s.tokens.size .blockMapping).openMargin
      some { (s.push .value).skip 1 with keyAllowed := !s.inFlow, inItem := false }

def takeAnchor? (s : Scanner) (token : String → Token) : Option Scanner := do
  let s ← markKey? s
  let name ← s.edition.anchor? s.cursor.rest.tail
  return { (s.push (token (String.ofList name))).skip (name.length + 1) with keyAllowed := false }

def takeTag? (s : Scanner) : Option Scanner := do
  let s ← markKey? s
  let (name, taken) ← s.edition.tag? s.inFlow s.cursor.rest.tail
  return { (s.push (.tag name)).skip (taken + 1) with keyAllowed := false }

def takeBlock? (s : Scanner) (style : Style) : Option Scanner := do
  let s ← if s.edition = .y2005 then dropKey? s else markKey? s
  let s := s.dropMargins
  let (content, taken) ←
    blockScalar? s.edition (style == .folded) s.innerIndent s.cursor.rest.tail
  return { (s.push (.scalar (String.ofList content) style)).skip (taken + 1) with
    keyAllowed := true }

/-- May a quoted scalar that began on a line end here? The edition of 2009 lets nothing follow it on
its line but marks. -/
def endsQuoted (s : Scanner) (line : Nat) : Bool :=
  s.edition == .y2005 || s.edition.atBreak s.cursor.rest ||
    s.cursor.rest.head?.any fun c ↦
      if s.inFlow then c == ':' || c == ',' || c == ']' || c == '\x7d'
      else c == ':' && s.cursor.line == line

def takeQuoted? (s : Scanner)
    (read : Edition → Nat → ScalarState → List Char → Option (List Char × Nat)) :
    Option Scanner := do
  let s ← markKey? s
  let line := s.cursor.line
  let (content, taken) ←
    read s.edition s.indent (ScalarState.start (s.cursor.column + 1)) s.cursor.rest.tail
  let s := { s.push (.scalar (String.ofList content) .quoted) with keyAllowed := false }
  let s ← (s.skip (taken + 1)).skipRest?
  if !s.endsQuoted line then none
  let s ← s.skipGap? false s.cursor.rest
  return { s with adjacent := some s.cursor.index }

/-- Take a plain scalar. After one that was followed by a line end a key may begin. -/
def takePlain? (s : Scanner) : Option Scanner := do
  let s ← markKey? s
  let s := s.dropMargins
  if s.edition = .y2009 ∧ s.inFlow ∧ s.cursor.column < s.innerIndent then none
  let state ← plain? s.edition s.inFlow s.innerIndent (ScalarState.start s.cursor.column)
    s.cursor.rest
  return { (s.push (.scalar (String.ofList state.content.reverse) .plain)).skip state.taken with
    keyAllowed := !state.gap.onLine }

/-! ## The next token -/

/-- Does a question mark with `rest` after it announce a key? -/
def announcesKey (s : Scanner) (rest : List Char) : Bool :=
  s.edition.atBlank rest || (s.edition == .y2005 && s.inFlow)

/-- Does a colon with `rest` after it announce a value? -/
def announcesValue (s : Scanner) (rest : List Char) : Bool :=
  s.edition.atBlank rest ||
    (s.inFlow && (s.edition == .y2005 || rest.head?.any isFlowMark ||
      s.adjacent == some s.cursor.index))

/-- Can a plain scalar begin with `c`, with `rest` after it? -/
def beginsPlain (s : Scanner) (c : Char) (rest : List Char) : Bool :=
  match s.edition with
  | .y2005 =>
    !(isBlank c || isFlowMark c || "-?:#&*!|>'\"%@\x60".contains c) ||
      (c == '-' && !rest.head?.any isBlank) ||
      (!s.inFlow && (c == '?' || c == ':') && !s.edition.atBlank rest)
  | .y2009 => !"%@\x60".contains c

/-- Take the token that begins with the next character `c`. -/
def take? (s : Scanner) (c : Char) (rest : List Char) : Option Scanner :=
  if s.cursor.column == 0 && c == '%' then s.takeDirective?
  else if s.cursor.column == 0 && s.edition.atMarker (c :: rest) then
    s.takeMarker? (if c = '-' then .documentStart else .documentEnd)
  else if c = '[' then s.takeOpening? true
  else if c = '\x7b' then s.takeOpening? false
  else if c = ']' then s.takeClosing? .listEnd
  else if c = '\x7d' then s.takeClosing? .mappingEnd
  else if c = ',' then s.takeComma?
  else if c == '-' && s.edition.atBlank rest then s.takeItem?
  else if c == '?' && s.announcesKey rest then s.takeExplicitKey?
  else if c == ':' && s.announcesValue rest then s.takeValue?
  else if c = '*' then s.takeAnchor? .reference
  else if c = '&' then s.takeAnchor? .anchor
  else if c = '!' then s.takeTag?
  else if c == '|' && !s.inFlow then s.takeBlock? .literal
  else if c == '>' && !s.inFlow then s.takeBlock? .folded
  else if c = '\'' then s.takeQuoted? singleQuoted?
  else if c = '"' then s.takeQuoted? doubleQuoted?
  else if s.beginsPlain c rest then s.takePlain?
  else none

/-- The tokens of the text from here on, after those so far. -/
def run (s : Scanner) : Option (Array Token) :=
  match (s.skipGap? false s.cursor.rest).bind dropStale? with
  | none => none
  | some here =>
    match here.cursor.rest with
    | [] =>
      if here.brackets.any (·.key.any KeyPlace.required) then none
      else (dropKey? here.closeAll).map Scanner.tokens
    | c :: rest =>
      let here := here.closeDeeper
      if here.edition = .y2009 ∧ here.cursor.column < here.indent then none
      else
        match here.take? c rest with
        | none => none
        | some after =>
          -- without a character taken the scan would not end
          if after.cursor.rest.length < s.cursor.rest.length then after.run else none
termination_by s.cursor.rest.length

end Scanner

def Token.scanAll (edition : Edition) (text : String) : Option (List Token) :=
  (edition.prepare? text).bind fun text ↦ (Scanner.start edition text).run.map Array.toList

end RunQuery.Yaml
