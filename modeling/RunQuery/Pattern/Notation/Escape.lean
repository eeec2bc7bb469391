import RunQuery.Pattern.Notation.Flags

/-!
# Escapes

What stands after a backslash: a character by its name or code, a class, a property, an assertion,
or a character that loses its meaning. A backslash before another letter or digit has no meaning.
-/

namespace RunQuery.Pattern

open Unicode

/-- What an escape stands for. -/
inductive Escape where
  /-- A character. -/
  | literal (c : Char)
  /-- A set of characters. -/
  | set (s : Ranges)
  /-- An assertion. -/
  | assert (a : Assertion)

/-- Characters with a meaning of their own, which a backslash takes away. -/
def isMeta (c : Char) : Bool := "\\.+*?()|[]\x7b\x7d^$#&-~".toList.contains c

/-- May a backslash stand before the character without changing it? -/
def isEscapable (c : Char) : Bool :=
  isMeta c || (c.toNat < 0x80 && !c.isAlphanum && c != '<' && c != '>')

/-- The character of a code point, unless it is half of a surrogate pair or beyond the last. -/
def charOfCode? (n : Nat) : Option Char :=
  if h : n.isValidChar then some (Char.ofNatAux n h) else none

/-- Exactly `n` characters, blanks between them skipped. -/
def exactRun? (flags : Flags) : (n : Nat) → List Char → Option (List Char × List Char)
  | 0, text => some ([], text)
  | 1, c :: rest => some ([c], rest)
  | n + 1, c :: rest => do
    let (cs, rest) ← exactRun? flags n (flags.skip rest)
    return (c :: cs, rest)
  | _ + 1, [] => none

/-- The character of the code point written in hexadecimal after its letter: in braces, or in
`width` digits. Two digits without `u` mean a byte, which is no character beyond ASCII. -/
def hexCode? (flags : Flags) (width : Nat) (text : List Char) : Option (Char × List Char) :=
  match flags.skip text with
  | '\x7b' :: rest => do
    let (digits, after) ← flags.braced? rest
    return (← charOfCode? (← hexNumber? digits), after)
  | text => do
    let (digits, after) ← exactRun? flags width text
    let c ← charOfCode? (← hexNumber? digits)
    if width = 2 ∧ flags.unicode = false ∧ 0x80 ≤ c.toNat then none else return (c, after)

/-- A text before and after the first place where another text stands in it. -/
def cutAt? (joint : List Char) : List Char → Option (List Char × List Char)
  | [] => none
  | c :: rest =>
    if joint.isPrefixOf (c :: rest) then some ([], (c :: rest).drop joint.length)
    else (cutAt? joint rest).map fun (before, after) ↦ (c :: before, after)

/-- The set that a name in braces stands for, and whether its complement is meant: a property, or a
property and its value joined by `!=`, a colon or `=`. -/
def namedProperty? (name : List Char) : Option (Ranges × Bool) :=
  let value? (joined : List Char × List Char) : Option Ranges :=
    Ranges.ofValue? (String.ofList joined.1) (String.ofList joined.2)
  match cutAt? ['!', '='] name, cutAt? [':'] name, cutAt? ['='] name with
  | some joined, _, _ => (value? joined).map (·, true)
  | none, some joined, _ => (value? joined).map (·, false)
  | none, none, some joined => (value? joined).map (·, false)
  | none, none, none => (Ranges.ofName? (String.ofList name)).map (·, false)

/-- The property named after `\p` or `\P`: a single letter, or a name in braces. -/
def property? (flags : Flags) (negated : Bool) (text : List Char) :
    Option (Escape × List Char) := do
  if flags.unicode = false then none
  else
    let ((set, other), rest) ← match flags.skip text with
      | '\x7b' :: rest => do
        let (name, after) ← flags.braced? rest
        some (← namedProperty? name, after)
      | c :: rest => if c = '\\' then none else (namedLetter? c).map (·, rest)
      | [] => none
    return (.set (← flags.signed? (negated != other) (flags.fold set)), rest)
where
  /-- The set that a single letter stands for. -/
  namedLetter? (c : Char) : Option (Ranges × Bool) :=
    (Ranges.ofName? (String.singleton c)).map (·, false)

/-- The assertion after `\b`. In braces a name can stand; anything else in braces is a count. -/
def boundary? (flags : Flags) (text : List Char) : Option (Escape × List Char) :=
  match text with
  | '\x7b' :: rest =>
    match flags.skip rest with
    | [] => none
    | c :: rest =>
      if c.isAlpha || c == '-' then do
        let (name, after) ← flags.braced? (c :: rest)
        let edge ← edgeOfName? (String.ofList name)
        return (.assert (flags.edge edge), after)
      else some (.assert (flags.edge .boundary), text)
  | _ => some (.assert (flags.edge .boundary), text)
where
  /-- The edge of a word of that name. -/
  edgeOfName? : String → Option WordEdge
    | "start" => some .begins
    | "end" => some .ends
    | "start-half" => some .noneBefore
    | "end-half" => some .noneAfter
    | _ => none

/-- The class of a letter after a backslash; a capital letter means its complement. -/
def classOfLetter? (flags : Flags) (c : Char) : Option (Option Ranges) :=
  match c with
  | 'd' => some (flags.class? digitRanges AsciiClass.digit false)
  | 'D' => some (flags.class? digitRanges AsciiClass.digit true)
  | 's' => some (flags.class? whiteSpaceRanges AsciiClass.space false)
  | 'S' => some (flags.class? whiteSpaceRanges AsciiClass.space true)
  | 'w' => some (flags.class? wordRanges AsciiClass.word false)
  | 'W' => some (flags.class? wordRanges AsciiClass.word true)
  | _ => none

/-- The character or assertion of a single letter or sign after a backslash. -/
def escapeOfChar? (flags : Flags) (c : Char) : Option Escape :=
  match c with
  | 'a' => some (.literal '\x07')
  | 'f' => some (.literal '\x0c')
  | 't' => some (.literal '\t')
  | 'n' => some (.literal '\n')
  | 'r' => some (.literal '\r')
  | 'v' => some (.literal '\x0b')
  | 'A' => some (.assert .textStart)
  | 'z' => some (.assert .textEnd)
  | 'B' => some (.assert (flags.edge .noBoundary))
  | '<' => some (.assert (flags.edge .begins))
  | '>' => some (.assert (flags.edge .ends))
  | c => if isEscapable c then some (.literal c) else none

/-- What stands after a backslash. -/
def escape? (flags : Flags) : List Char → Option (Escape × List Char)
  | [] => none
  | 'x' :: rest => (hexCode? flags 2 rest).map fun (c, rest) ↦ (.literal c, rest)
  | 'u' :: rest => (hexCode? flags 4 rest).map fun (c, rest) ↦ (.literal c, rest)
  | 'U' :: rest => (hexCode? flags 8 rest).map fun (c, rest) ↦ (.literal c, rest)
  | 'p' :: rest => property? flags false rest
  | 'P' :: rest => property? flags true rest
  | 'b' :: rest => boundary? flags rest
  | c :: rest =>
    match classOfLetter? flags c with
    | some set => set.map fun s ↦ (.set s, rest)
    | none => (escapeOfChar? flags c).map (·, rest)

end RunQuery.Pattern
