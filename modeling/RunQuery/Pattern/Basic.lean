import RunQuery.Unicode.Case

/-!
# Patterns

Regular expressions over characters, with assertions about the place where they stand, in a normal
form that the constructors of this module keep:

* a sequence has at least two parts, none of them a sequence or empty, and no two texts next to each
  other;
* a choice has at least two branches, none of them a choice, that are not all single characters, not
  all sets of characters, and not all sequences with a common first part;
* what matches the empty text only is repeated once at most;
* a set of a single character is a text.

The normal form decides how large the automaton of a pattern grows, and so which patterns are too
large to be used.

## Measures

What repetition and the automaton need to know of a pattern is the length of its shortest match,
whether it matches the empty text only, and whether every match begins or ends with an assertion.
-/

namespace RunQuery

open Unicode

/-- What is asserted about the word characters around a place. -/
inductive Pattern.WordEdge where
  /-- A word character stands on just one side. -/
  | boundary
  /-- Word characters stand on both sides or on none. -/
  | noBoundary
  /-- A word begins. -/
  | begins
  /-- A word ends. -/
  | ends
  /-- No word character stands before. -/
  | noneBefore
  /-- No word character stands after. -/
  | noneAfter
  deriving DecidableEq, Repr

/-- A condition on the place where it stands. -/
inductive Pattern.Assertion where
  /-- The begin of the text. -/
  | textStart
  /-- The end of the text. -/
  | textEnd
  /-- The begin of a line; with `crlf`, a carriage return ends lines too. -/
  | lineStart (crlf : Bool)
  /-- The end of a line. -/
  | lineEnd (crlf : Bool)
  /-- An edge of a word, with the word characters of ASCII or of all scripts. -/
  | word (edge : Pattern.WordEdge) (ascii : Bool)
  deriving DecidableEq, Repr

/-- A regular expression. -/
inductive Pattern where
  /-- The empty text. -/
  | empty
  /-- A text. -/
  | chars (cs : List Char)
  /-- One character of a set. -/
  | oneOf (s : Ranges)
  /-- The empty text, where an assertion holds. -/
  | assert (a : Pattern.Assertion)
  /-- At least `least` times, and at most `most` times where that is given; many times rather than
  few, if it is `greedy`. -/
  | times (least : Nat) (most : Option Nat) (greedy : Bool) (p : Pattern)
  /-- A numbered group. -/
  | group (index : Nat) (p : Pattern)
  /-- One after the other. -/
  | seq (ps : List Pattern)
  /-- One or the other. -/
  | alt (ps : List Pattern)

namespace Pattern

/-- What matches nothing. -/
def never : Pattern := oneOf []

/-! ## Comparing and measuring -/

mutual

/-- Are two patterns written alike? -/
def same : Pattern → Pattern → Bool
  | empty, empty => true
  | chars cs, chars ds => cs == ds
  | oneOf s, oneOf t => s == t
  | assert a, assert b => a == b
  | times l m g p, times l' m' g' q => l == l' && m == m' && g == g' && same p q
  | group i p, group j q => i == j && same p q
  | seq ps, seq qs => sameAll ps qs
  | alt ps, alt qs => sameAll ps qs
  | _, _ => false

/-- Are the patterns of two lists written alike? -/
def sameAll : List Pattern → List Pattern → Bool
  | [], [] => true
  | p :: ps, q :: qs => same p q && sameAll ps qs
  | _, _ => false

end

mutual

/-- How many pieces the pattern has. -/
def size : Pattern → Nat
  | times _ _ _ p => size p + 1
  | group _ p => size p + 1
  | seq ps => sizeAll ps + 1
  | alt ps => sizeAll ps + 1
  | _ => 1

/-- How many pieces some patterns have. -/
def sizeAll : List Pattern → Nat
  | [] => 0
  | p :: ps => size p + sizeAll ps

end

mutual

/-- Does the pattern match the empty text only? -/
def isBlank : Pattern → Bool
  | empty => true
  | chars cs => cs.isEmpty
  | oneOf _ => false
  | assert _ => true
  | times _ most _ p => most.isSome && isBlank p
  | group _ p => isBlank p
  | seq ps => allBlank ps
  | alt ps => allBlank ps

/-- Do all patterns match the empty text only? -/
def allBlank : List Pattern → Bool
  | [] => true
  | p :: ps => isBlank p && allBlank ps

end

mutual

/-- The number of characters in the shortest match; `none` where it is not known because some part
matches nothing. -/
def shortest? : Pattern → Option Nat
  | empty => some 0
  | chars cs => some cs.length
  | oneOf s => if s.isEmpty then none else some 1
  | assert _ => some 0
  | times least _ _ p => (shortest? p).map (least * ·)
  | group _ p => shortest? p
  | seq ps => shortestOfAll? ps
  | alt ps => shortestOfAny? ps

/-- The number of characters in the shortest match of all patterns in a row. -/
def shortestOfAll? : List Pattern → Option Nat
  | [] => some 0
  | p :: ps => do return (← shortest? p) + (← shortestOfAll? ps)

/-- The number of characters in the shortest match of any of the patterns. -/
def shortestOfAny? : List Pattern → Option Nat
  | [] => none
  | [p] => shortest? p
  | p :: ps => do return min (← shortest? p) (← shortestOfAny? ps)

end

mutual

/-- Does every match begin where an assertion holds, as far as the form of the pattern shows? -/
def beginsWith (a : Assertion) : Pattern → Bool
  | assert b => a == b
  | times least _ _ p => 0 < least && beginsWith a p
  | group _ p => beginsWith a p
  | seq ps => someBeginsWith a ps
  | alt ps => !ps.isEmpty && allBeginWith a ps
  | _ => false

/-- Does one of the patterns in a row begin where the assertion holds, before anything but the empty
text is matched? -/
def someBeginsWith (a : Assertion) : List Pattern → Bool
  | [] => false
  | p :: ps => beginsWith a p || (isBlank p && someBeginsWith a ps)

def allBeginWith (a : Assertion) : List Pattern → Bool
  | [] => true
  | p :: ps => beginsWith a p && allBeginWith a ps

end

mutual

/-- Does every match end where an assertion holds, as far as the form of the pattern shows? -/
def endsWith (a : Assertion) : Pattern → Bool
  | assert b => a == b
  | times least _ _ p => 0 < least && endsWith a p
  | group _ p => endsWith a p
  | seq ps => someEndsWith a ps
  | alt ps => !ps.isEmpty && allEndWith a ps
  | _ => false

/-- Does one of the patterns in a row end where the assertion holds, with only the empty text
matched after it? -/
def someEndsWith (a : Assertion) : List Pattern → Bool
  | [] => false
  | p :: ps => someEndsWith a ps || (allBlank ps && endsWith a p)

def allEndWith (a : Assertion) : List Pattern → Bool
  | [] => true
  | p :: ps => endsWith a p && allEndWith a ps

end

/-! ## Keeping the normal form -/

/-- One character of a set. -/
def ofSet (s : Ranges) : Pattern :=
  match s with
  | [r] => if r.first = r.last then chars [Char.ofNat r.first] else oneOf s
  | s => oneOf s

def repeated (least : Nat) (most : Option Nat) (greedy : Bool) (p : Pattern) : Pattern :=
  let (least, most) :=
    if p.isBlank then (min least 1, some (most.elim 1 (min 1))) else (least, most)
  if most = some 0 then empty
  else if least = 1 ∧ most = some 1 then p
  else times least most greedy p

def parts : Pattern → List Pattern
  | empty => []
  | seq ps => ps
  | p => [p]

def branches : Pattern → List Pattern
  | alt ps => ps
  | p => [p]

/-- A part before others in a sequence; texts next to each other are one. -/
def before (p : Pattern) (ps : List Pattern) : List Pattern :=
  match p, ps with
  | chars cs, chars ds :: rest => chars (cs ++ ds) :: rest
  | p, ps => p :: ps

def inOrder (ps : List Pattern) : Pattern :=
  match (ps.flatMap parts).foldr before [] with
  | [] => empty
  | [p] => p
  | ps => seq ps

/-- The set of a single character, if the pattern is one. -/
def asCharacter? : Pattern → Option Range
  | chars [c] => some (.single c.toNat)
  | _ => none

def asSet? : Pattern → Option Ranges
  | oneOf s => some s
  | _ => none

def asSequence? : Pattern → Option (List Pattern)
  | seq ps => some ps
  | _ => none

/-- The parts that two sequences begin with. -/
def commonParts : List Pattern → List Pattern → List Pattern
  | p :: ps, q :: qs => if same p q then p :: commonParts ps qs else []
  | _, _ => []

/-- A choice between patterns that are no choices. `fuel` bounds how often a common begin is taken
out. -/
def choose : (fuel : Nat) → List Pattern → Pattern
  | _, [] => never
  | _, [p] => p
  | fuel, ps =>
    match ps.mapM asCharacter?, ps.mapM asSet?, ps.mapM asSequence?, fuel with
    | some cs, _, _, _ => ofSet (Ranges.normal cs)
    | _, some ss, _, _ => ofSet (Ranges.normal ss.flatten)
    | _, _, some (s :: ss), fuel + 1 =>
      let common := ss.foldl commonParts s
      if common.isEmpty then alt ps
      else
        -- what is left of a sequence may be a choice, whose branches join the others
        let rests := (s :: ss).map fun ps ↦ inOrder (ps.drop common.length)
        inOrder (common ++ [choose fuel (rests.flatMap branches)])
    | _, _, _, _ => alt ps

/-- One of the patterns. Each time a common begin is taken out, the patterns lose a piece. -/
def anyOf (ps : List Pattern) : Pattern := choose (sizeAll ps) (ps.flatMap branches)

end Pattern

end RunQuery
