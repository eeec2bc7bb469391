import RunQuery.Decimal.Basic
import RunQuery.Pattern.Notation.Class
import RunQuery.Pattern.Search

/-!
# Reading patterns

The notation of regular expressions. A text that is no pattern has no meaning: unclosed groups and
classes, repetition of nothing, ranges in falling order, unknown escapes, references to what a group
matched, and looking ahead or behind are all refused. So are patterns that are nested too deep or
whose automata are too large.

## How a text is read

One step takes one *piece* off the front of the text: an atom, a repetition, a bar, the begin or end
of a group, or a change of flags. The reader holds a stack of the groups that are open, each with
its finished branches and the branch it is in. Flags that a group changes are those of its parent
again after it.

## Height

A group, a repetition, a class, a sequence of several parts and a choice between several branches
each stand one above what they are made of. Changes of flags count as parts.
-/

namespace RunQuery.Pattern

open Unicode

/-! ## Repetition -/

/-- A count in braces: white space around it does not matter, and it fits in 32 bits. -/
def repeatCount? (flags : Flags) (text : List Char) : Option (Nat × List Char) :=
  let (digits, rest) := flags.run Decimal.isDigit (text.dropWhile isWhiteSpace)
  let n := Decimal.ofDigits digits
  if digits.isEmpty ∨ Nat.pow 2 32 ≤ n then none
  else some (n, flags.skip (rest.dropWhile isWhiteSpace))

/-- A counted repetition after its brace: `n`, `n,` or `n,m`. -/
def counted? (flags : Flags) (text : List Char) : Option ((Nat × Option Nat) × List Char) := do
  let (least, rest) ← repeatCount? flags (flags.skip text)
  match rest with
  | '\x7d' :: rest => return ((least, some least), rest)
  | ',' :: rest =>
    match flags.skip rest with
    | '\x7d' :: rest => return ((least, none), rest)
    | rest =>
      let (most, rest) ← repeatCount? flags rest
      match rest with
      | '\x7d' :: rest => if least ≤ most then return ((least, some most), rest) else none
      | _ => none
  | _ => none

/-- Is an operator followed by the sign of its reluctant form, and what is left? -/
def dropReluctant : List Char → Bool × List Char
  | '?' :: rest => (true, rest)
  | text => (false, text)

/-! ## Groups -/

/-- The flags in a group's head up to its colon or closing bracket. No flag may be named twice, and
the one minus sign is followed by a flag. -/
def flagRun? : (flags : Flags) → (on : Bool) → (named : List Char) → List Char →
    Option (Flags × List Char × List Char)
  | flags, _, named, ':' :: rest =>
    if named.head? = some '-' then none else some (flags, named, ':' :: rest)
  | flags, _, named, ')' :: rest =>
    if named.head? = some '-' then none else some (flags, named, ')' :: rest)
  | flags, on, named, '-' :: rest =>
    if on then flagRun? flags false ('-' :: named) rest else none
  | flags, on, named, c :: rest =>
    if named.contains c then none
    else (flags.set? c on).bind fun flags ↦ flagRun? flags on (c :: named) rest
  | _, _, _, [] => none

/-- May the name of a group go on with the character? -/
def isNameChar (c : Char) : Bool :=
  c == '_' || c == '.' || c == '[' || c == ']' || isAlphanumeric c

/-- The name of a group and what follows its closing angle. It begins with a letter or an
underscore. -/
def groupName? (text : List Char) : Option (String × List Char) := do
  let name := text.takeWhile (· != '>')
  let after ← (text.dropWhile (· != '>')).tail?
  match name with
  | [] => none
  | c :: cs =>
    if (c == '_' || isAlphabetic c) && cs.all isNameChar then some (String.ofList name, after)
    else none

/-- A piece of a pattern. -/
inductive Piece where
  /-- A pattern by itself, with its height. -/
  | atom (p : Pattern) (height : Nat)
  /-- The repetition of what comes before. -/
  | repetition (least : Nat) (most : Option Nat) (greedy : Bool)
  /-- The begin of another branch. -/
  | bar
  /-- The begin of a group with its flags; `numbered` if it has a number, and its name. -/
  | openGroup (flags : Flags) (numbered : Bool) (name : Option String)
  /-- The end of a group. -/
  | closeGroup
  /-- New flags up to the end of the group. -/
  | setFlags (flags : Flags)

/-- The head of a group after its bracket. -/
def group? (flags : Flags) (text : List Char) : Option (Piece × List Char) :=
  match flags.skip text with
  | '?' :: 'P' :: '<' :: rest =>
    (groupName? rest).map fun (name, rest) ↦ (.openGroup flags true (some name), rest)
  -- looking behind, which would be the begin of a name otherwise
  | '?' :: '<' :: '=' :: _ => none
  | '?' :: '<' :: '!' :: _ => none
  | '?' :: '<' :: rest =>
    (groupName? rest).map fun (name, rest) ↦ (.openGroup flags true (some name), rest)
  | '?' :: rest => do
    let (changed, named, rest) ← flagRun? flags true [] rest
    match rest with
    | ':' :: rest => return (.openGroup changed false none, rest)
    | ')' :: rest => if named.isEmpty then none else return (.setFlags changed, rest)
    | _ => none
  | text => some (.openGroup flags true none, text)

/-! ## Pieces -/

/-- The repetition that an operator means. -/
def operator (flags : Flags) (least : Nat) (most : Option Nat) (text : List Char) :
    Piece × List Char :=
  let (reluctant, rest) := dropReluctant text
  (.repetition least most (reluctant == flags.reluctant), rest)

/-- The pattern of an escape outside of classes. -/
def Escape.pattern (flags : Flags) : Escape → Pattern
  | .literal c => flags.literal c
  | .set s => ofSet s
  | .assert a => .assert a

/-- Take one piece off the front of a pattern that does not begin with a blank. -/
def piece? (flags : Flags) : List Char → Option (Piece × List Char)
  | [] => none
  | '(' :: rest => group? flags rest
  | ')' :: rest => some (.closeGroup, rest)
  | '|' :: rest => some (.bar, rest)
  | '[' :: rest =>
    (class? flags rest).map fun (s, rest) ↦ (.atom (ofSet s.set) s.height, rest)
  | '?' :: rest => some (operator flags 0 (some 1) rest)
  | '*' :: rest => some (operator flags 0 none rest)
  | '+' :: rest => some (operator flags 1 none rest)
  | '\x7b' :: rest =>
    (counted? flags rest).map fun ((least, most), rest) ↦
      operator flags least most (flags.skip rest)
  | '\\' :: rest =>
    (escape? flags rest).map fun (e, rest) ↦ (.atom (e.pattern flags) 0, rest)
  | '.' :: rest => flags.dot?.map fun s ↦ (.atom (ofSet s) 0, rest)
  | '^' :: rest => some (.atom (.assert flags.begins) 0, rest)
  | '$' :: rest => some (.atom (.assert flags.ends) 0, rest)
  | c :: rest => some (.atom (flags.literal c) 0, rest)

/-! ## The whole pattern -/

/-- A pattern with its height. -/
structure Tall where
  /-- The pattern. -/
  pattern : Pattern
  /-- The height. -/
  height : Nat

/-- Patterns made one, which stands above them if they are several. -/
def Tall.join (make : List Pattern → Pattern) : List Tall → Tall
  | [p] => p
  | ps => ⟨make (ps.map (·.pattern)), ps.foldl (fun h p ↦ max h (p.height + 1)) 0⟩

/-- A group that is open. -/
structure OpenGroup where
  /-- The flags in force. -/
  flags : Flags
  /-- The number of the group, if it has one. -/
  index : Option Nat
  /-- The branches that are finished, the last one first. -/
  branches : List Tall
  /-- The branch it is in, the last part first; `none` for a change of flags, which cannot be
  repeated. -/
  branch : List (Option Tall)

namespace OpenGroup

def lastBranch (g : OpenGroup) : Tall :=
  Tall.join inOrder (g.branch.reverse.map (·.getD ⟨empty, 0⟩))

/-- The choice between its branches. -/
def content (g : OpenGroup) : Tall := Tall.join anyOf (g.lastBranch :: g.branches).reverse

/-- The group as a part of another one. -/
def close (g : OpenGroup) : Tall :=
  let pattern := match g.index with
    | some index => .group index g.content.pattern
    | none => g.content.pattern
  ⟨pattern, g.content.height + 1⟩

/-- The group with one more part in its branch. -/
def push (g : OpenGroup) (p : Tall) : OpenGroup := { g with branch := some p :: g.branch }

end OpenGroup

/-- The pattern of a text, from a place on: the innermost open group, those around it, and the
number and the names of the groups so far. Each step takes at least one character off the text,
whose length is the fuel. -/
def readFrom : (fuel : Nat) → (g : OpenGroup) → (outer : List OpenGroup) → (count : Nat) →
    (names : List String) → List Char → Option Tall
  | 0, _, _, _, _, _ => none
  | fuel + 1, g, outer, count, names, text =>
    match g.flags.skip text with
    | [] => if outer.isEmpty then some g.content else none
    | c :: cs =>
      match piece? g.flags (c :: cs) with
      | none => none
      | some (.atom p height, rest) => readFrom fuel (g.push ⟨p, height⟩) outer count names rest
      | some (.repetition least most greedy, rest) =>
        match g.branch with
        | some p :: branch =>
          let p : Tall := ⟨repeated least most greedy p.pattern, p.height + 1⟩
          readFrom fuel { g with branch := some p :: branch } outer count names rest
        -- the branch is empty, or a change of flags stands before
        | _ => none
      | some (.bar, rest) =>
        readFrom fuel { g with branches := g.lastBranch :: g.branches, branch := [] } outer count
          names rest
      | some (.openGroup flags numbered name, rest) =>
        if name.any names.contains then none
        else
          let (index, count) := if numbered then (some (count + 1), count + 1) else (none, count)
          readFrom fuel ⟨flags, index, [], []⟩ (g :: outer) count (name.toList ++ names) rest
      | some (.closeGroup, rest) =>
        match outer with
        | [] => none
        | parent :: outer => readFrom fuel (parent.push g.close) outer count names rest
      | some (.setFlags flags, rest) =>
        readFrom fuel { g with flags := flags, branch := none :: g.branch } outer count names rest

def heightLimit : Nat := 250

def read? (text : String) : Option Pattern := do
  let p ← readFrom (text.length + 1) ⟨{}, none, [], []⟩ [] 0 [] text.toList
  if p.height ≤ heightLimit then return p.pattern else none

/-- The test that a text writes: does a pattern occur? -/
def test? (text : String) : Option (String → Bool) := do
  let (start, automaton) ← automaton? (← read? text)
  return automaton.occursIn start

end RunQuery.Pattern
