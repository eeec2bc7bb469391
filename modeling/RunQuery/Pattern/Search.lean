import RunQuery.Pattern.Automaton.OfPattern
import RunQuery.Unicode.Class

/-!
# Searching texts

The question whether a pattern occurs in a text, answered by the automaton of the pattern. The
search goes through the text once and keeps the set of all states that some match, begun at an
earlier place, can have reached. At every place a new match may begin, and from every state all
that it leads to without a byte is reached too; which of several matches is preferred makes no
difference to whether there is one.

A place is told by the characters before and after it. States between the bytes of a character are
never followed by an assertion, so assertions are asked for between characters only.
-/

namespace RunQuery.Pattern

open Unicode

/-- A place in a text. -/
structure Place where
  /-- The character before. -/
  before : Option Char
  /-- The character after. -/
  after : Option Char

/-- Is this a word character, of ASCII or of any script? -/
def isWordChar (ascii : Bool) (c : Char) : Bool :=
  if ascii then c.isAlphanum || c == '_' else wordRanges.contains c

namespace Assertion

def startsLine (crlf : Bool) (p : Place) : Bool :=
  match p.before with
  | none => true
  | some '\n' => true
  | some '\r' => crlf && p.after != some '\n'
  | some _ => false

def endsLine (crlf : Bool) (p : Place) : Bool :=
  match p.after with
  | none => true
  | some '\n' => !crlf || p.before != some '\r'
  | some '\r' => crlf
  | some _ => false

def holds (p : Place) : Assertion → Bool
  | textStart => p.before.isNone
  | textEnd => p.after.isNone
  | lineStart crlf => startsLine crlf p
  | lineEnd crlf => endsLine crlf p
  | word edge ascii =>
    let isBefore := p.before.any (isWordChar ascii)
    let isAfter := p.after.any (isWordChar ascii)
    match edge with
    | .boundary => isBefore != isAfter
    | .noBoundary => isBefore == isAfter
    | .begins => !isBefore && isAfter
    | .ends => isBefore && !isAfter
    | .noneBefore => !isBefore
    | .noneAfter => !isAfter

end Assertion

namespace Automaton

/-- The states that are reached at a place. -/
structure Reached where
  /-- For each state, the last round of the search in which it was reached. -/
  rounds : Array Nat
  /-- The states reached in this round that lead on with a byte. -/
  waiting : List Nat
  /-- Is a match at its end? -/
  accepted : Bool

/-- Reach the states of `work`, and all that they lead to without a byte. Each step takes a state
that is given or a way out of a state, of which there are no more than the size of the
automaton. -/
def reach (a : Automaton) (holds : Assertion → Bool) (round : Nat) :
    (fuel : Nat) → (work : List Nat) → Reached → Reached
  | 0, _, r => r
  | _ + 1, [], r => r
  | fuel + 1, q :: work, ⟨rounds, waiting, accepted⟩ =>
    if rounds[q]? = some round then reach a holds round fuel work ⟨rounds, waiting, accepted⟩
    else
      let rounds := rounds.setIfInBounds q round
      match a.states[q]? with
      | some (.pass next) => reach a holds round fuel (next :: work) ⟨rounds, waiting, accepted⟩
      | some (.assert s next) =>
        let work := if holds s then next :: work else work
        reach a holds round fuel work ⟨rounds, waiting, accepted⟩
      | some (.choice nexts) =>
        reach a holds round fuel (nexts ++ work) ⟨rounds, waiting, accepted⟩
      | some .accept => reach a holds round fuel work ⟨rounds, waiting, true⟩
      | some _ => reach a holds round fuel work ⟨rounds, q :: waiting, accepted⟩
      | .none => reach a holds round fuel work ⟨rounds, waiting, accepted⟩

/-- The states to which a byte leads from some states. -/
def afterByte (a : Automaton) (b : UInt8) (states : List Nat) : List Nat :=
  states.filterMap fun (q : Nat) ↦
    match a.states[q]? with
    | some (.byte t) => if t.bytes.contains b then some t.next else .none
    | some (.table ts) => (ts.find? (·.bytes.contains b)).map (·.next)
    | _ => .none

/-- The states to which the bytes of a character lead from those that wait, with the rounds so far
and the number of the next one. -/
def afterBytes (a : Automaton) : List UInt8 → (round : Nat) → (rounds : Array Nat) →
    (waiting : List Nat) → List Nat × Nat × Array Nat
  | [], round, rounds, waiting => (waiting, round, rounds)
  | [b], round, rounds, waiting => (afterByte a b waiting, round, rounds)
  | b :: bytes, round, rounds, waiting =>
    let work := afterByte a b waiting
    -- amid a character no assertion holds
    let r := reach a (fun _ ↦ false) round (a.size + work.length) work ⟨rounds, [], false⟩
    afterBytes a bytes (round + 1) r.rounds r.waiting

/-- Does a match end somewhere in the rest of a text, if it has reached some states or begins in the
rest? -/
def occursFrom (a : Automaton) (start : Nat) (round : Nat) (rounds : Array Nat)
    (states : List Nat) (before : Option Char) : List Char → Bool
  | [] => (here a start round rounds states ⟨before, .none⟩).accepted
  | c :: rest =>
    let r := here a start round rounds states ⟨before, some c⟩
    r.accepted ||
      let (states, round, rounds) :=
        afterBytes a (String.utf8EncodeChar c) (round + 1) r.rounds r.waiting
      occursFrom a start round rounds states (some c) rest
where
  /-- What is reached at a place from some states and from the start. -/
  here (a : Automaton) (start round : Nat) (rounds : Array Nat) (states : List Nat)
      (p : Place) : Reached :=
    reach a (·.holds p) round (a.size + states.length + 1) (start :: states) ⟨rounds, [], false⟩

/-- Does a match that begins in the state `start` occur in the text? -/
def occursIn (a : Automaton) (start : Nat) (text : String) : Bool :=
  occursFrom a start 1 (Array.replicate a.states.size 0) [] .none text.toList

end Automaton

end RunQuery.Pattern
