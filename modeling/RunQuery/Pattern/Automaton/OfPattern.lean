import RunQuery.Pattern.Automaton.Characters
import RunQuery.Pattern.Automaton.Texts
import RunQuery.Text.Utf8

/-!
# The automaton of a pattern

The automaton that reads the texts of a pattern, and the limit for its size.

A pattern is used in both directions: from left to right to find the end of a match, and from right
to left to find its begin. It is too large if one of the two automata is larger than the limit. A
search also enters at every place of a text, unless every match stands at its begin, which adds a
few states. No limit holds for a choice between very many texts, which needs no automaton.
-/

namespace RunQuery.Pattern

open Unicode

/-- The texts of a choice between texts. -/
def texts? (ps : List Pattern) : Option (List (List Char)) :=
  ps.mapM fun
    | chars cs => some cs
    | _ => none

namespace Automaton

mutual

/-- The part for a pattern. Groups are not looked at from right to left. -/
def addPattern (direction : Direction) : Pattern → Build Part
  | .empty => addEmpty
  | .chars cs => addBytes (direction.order (Text.Utf8.encode cs))
  | .oneOf s => addSet direction s
  | .assert a => addAssertion a
  | .times least most _ p =>
    repetition (p.shortest?.any (0 < ·)) (addPattern direction p) least most
  | .group _ p =>
    match direction with
    | .forward => enclosed (addPattern direction p)
    | .backward => addPattern direction p
  | .seq ps => addInOrder direction ps
  | .alt ps =>
    match texts? ps with
    | some texts => addTexts (texts.map fun cs ↦ direction.order (Text.Utf8.encode cs))
    | .none => addChoice direction ps

def addInOrder (direction : Direction) : List Pattern → Build Part
  | [] => addEmpty
  | [p] => addPattern direction p
  | p :: ps =>
    match direction with
    | .forward => do followedBy (← addPattern direction p) (addInOrder direction ps)
    | .backward => do followedBy (← addInOrder direction ps) (addPattern direction p)

def addChoice (direction : Direction) : List Pattern → Build Part
  | [] => addTable []
  | [p] => addPattern direction p
  | p :: q :: ps => do
    let choice ← either (addPattern direction p) (addPattern direction q)
    addBranches direction choice ps
    return choice

def addBranches (direction : Direction) (choice : Part) : List Pattern → Build Unit
  | [] => return
  | p :: ps => do
    addBranch choice (addPattern direction p)
    addBranches direction choice ps

end

/-- The part by which a search enters a pattern: at the begin of the text only, or after any
bytes. -/
def addEntry (atStart : Bool) : Build Part :=
  if atStart then addEmpty
  else anyNumber true (addTable [⟨0, 255⟩])

/-- Add all that a search for a pattern needs. The result is the state where a match begins. -/
def addSearch (atStart : Bool) (p : Build Part) : Build Nat := do
  let entry ← addEntry atStart
  let p ← p
  let last ← add .accept
  link p.last last
  link entry.last p.first
  return p.first

def build? {α : Type} (limit : Option Nat) (b : Build α) : Option (α × Automaton) :=
  (b limit).run none

/-- The largest size: ten times 2 ^ 20 bytes. -/
def sizeLimit : Nat := 10 * Nat.pow 2 20

end Automaton

/-- The least number of texts for which a choice between texts may have any size. -/
def manyTexts : Nat := 3000

/-- The limit for the size of the automata of a pattern. -/
def sizeLimit? (p : Pattern) : Option Nat :=
  match p with
  | alt ps => if (texts? ps).isSome && manyTexts ≤ ps.length then none else some Automaton.sizeLimit
  | _ => some Automaton.sizeLimit

open Automaton in
/-- The automaton of a pattern and the state where a match begins; `none` if it or the one that
reads from right to left is too large. -/
def automaton? (p : Pattern) : Option (Nat × Automaton) := do
  let limit := sizeLimit? p
  let found ← build? limit (addSearch (p.beginsWith .textStart) (enclosed (addPattern .forward p)))
  -- built for its size alone
  let _ ← build? limit (addSearch (p.endsWith .textEnd) (addPattern .backward p))
  return found

end RunQuery.Pattern
