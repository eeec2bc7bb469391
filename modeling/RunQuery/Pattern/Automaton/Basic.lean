import RunQuery.Pattern.Basic
import RunQuery.Pattern.Bytes

/-!
# Automata for patterns

Finite automata over bytes, the size that they are counted with, and the parts from which the
automaton of a pattern is put together.

An automaton is built state by state. A state is entered before it is known where it leads, and is
linked to the next one later; a choice collects the states that it is linked to. Where a limit for
the size is given, building ends when it is passed.

## Size

A state counts for 32 bytes, each way out of a choice for 4 more, and each range of a table for 8
more.
-/

namespace RunQuery.Pattern

/-- A way out of a state: a byte of a range leads to the state `next`. -/
structure Transition where
  /-- The bytes. -/
  bytes : ByteRange
  /-- Where they lead. -/
  next : Nat
  deriving DecidableEq

/-- A state of an automaton. -/
inductive State where
  /-- Leads on without a byte. -/
  | pass (next : Nat)
  /-- Leads on with a byte of a range. -/
  | byte (t : Transition)
  /-- Leads on with a byte of one of some ranges, which do not overlap. -/
  | table (ts : List Transition)
  /-- Leads on without a byte, where an assertion holds. -/
  | assert (a : Assertion) (next : Nat)
  /-- Leads on without a byte in several ways. -/
  | choice (nexts : List Nat)
  /-- The end of a match. -/
  | accept
  deriving Inhabited

namespace State

/-- What the state counts for beyond the 32 bytes of every state. -/
def extraSize : State → Nat
  | table ts => 8 * ts.length
  | choice nexts => 4 * nexts.length
  | _ => 0

/-- The state, linked to the next one. -/
def link (next : Nat) : State → State
  | pass _ => pass next
  | byte t => byte { t with next := next }
  | assert a _ => assert a next
  | choice nexts => choice (next :: nexts)
  | s => s

def growsByLink : State → Bool
  | choice _ => true
  | _ => false

end State

/-- An automaton, or as much of it as is built. -/
structure Automaton where
  /-- The states. -/
  states : Array State
  /-- What they count for beyond 32 bytes each. -/
  extra : Nat

namespace Automaton

/-- The automaton without states. -/
def none : Automaton := ⟨#[], 0⟩

def size (a : Automaton) : Nat := 32 * a.states.size + a.extra

/-- Steps of building under an optional limit for the size, which fail when it is passed. -/
abbrev Build (α : Type) : Type := ReaderT (Option Nat) (StateT Automaton Option) α

/-- The automaton as the result of a step, unless it passes the limit. -/
def within {α : Type} (limit : Option Nat) (result : α) (a : Automaton) : Option (α × Automaton) :=
  if limit.any (· < a.size) then failure else some (result, a)

/-- Add a state. The result is its number. -/
def add (s : State) : Build Nat := fun limit ⟨states, extra⟩ ↦
  let states := states.push s
  within limit (states.size - 1) ⟨states, extra + s.extraSize⟩

/-- Link a state to the next one. -/
def link (state next : Nat) : Build Unit := fun limit ⟨states, extra⟩ ↦
  if states[state]?.any State.growsByLink then
    within limit () ⟨states.modify state (State.link next), extra + 4⟩
  else some ((), ⟨states.modify state (State.link next), extra⟩)

/-- A part of an automaton: where it is entered, and the state to be linked to what comes after. -/
structure Part where
  /-- The first state. -/
  first : Nat
  /-- The last state. -/
  last : Nat

/-! ## Parts -/

def addEmpty : Build Part := do
  let s ← add (.pass 0)
  return ⟨s, s⟩

def addByte (r : ByteRange) : Build Part := do
  let s ← add (.byte ⟨r, 0⟩)
  return ⟨s, s⟩

def addAssertion (a : Assertion) : Build Part := do
  let s ← add (.assert a 0)
  return ⟨s, s⟩

def addTable (rs : List ByteRange) : Build Part := do
  let last ← add (.pass 0)
  let first ← add (.table (rs.map (⟨·, last⟩)))
  return ⟨first, last⟩

/-- One part after another. -/
def followedBy (p : Part) (next : Build Part) : Build Part := do
  let q ← next
  link p.last q.first
  return ⟨p.first, q.last⟩

def addBytes : List UInt8 → Build Part
  | [] => addEmpty
  | b :: bs => do
    let p ← addByte (.single b)
    bs.foldlM (fun p b ↦ followedBy p (addByte (.single b))) p

/-- A part before `n` more of a kind. -/
def more (next : Build Part) : (n : Nat) → Part → Build Part
  | 0, p => return p
  | n + 1, p => do more next n (← followedBy p next)

/-- The part for exactly `n` rounds. -/
def exactly (round : Build Part) : (n : Nat) → Build Part
  | 0 => addEmpty
  | n + 1 => do more round n (← round)

/-- The part for a choice of which the second branch is the empty text. -/
def optional (round : Build Part) : Build Part := do
  let choice ← add (.choice [])
  let p ← round
  let last ← add (.pass 0)
  link choice p.first
  link choice last
  link p.last last
  return ⟨choice, last⟩

/-- The part for any number of rounds; `consumes` tells that each round takes up a byte. Where one
need not, the first round is entered by a choice of its own. -/
def anyNumber (consumes : Bool) (round : Build Part) : Build Part := do
  if consumes then
    -- no way out is given here; linking the last state to what follows adds it
    let choice ← add (.choice [])
    let p ← round
    link choice p.first
    link p.last choice
    return ⟨choice, choice⟩
  else
    let p ← round
    let again ← add (.choice [])
    link p.last again
    link again p.first
    let choice ← add (.choice [])
    let last ← add (.pass 0)
    link choice p.first
    link choice last
    link again last
    return ⟨choice, last⟩

/-- The part for `n + 1` rounds or more. -/
def moreThan (round : Build Part) : (n : Nat) → Build Part
  | 0 => do
    let p ← round
    let again ← add (.choice [])
    link p.last again
    link again p.first
    return ⟨p.first, again⟩
  | n + 1 => do
    let before ← exactly round (n + 1)
    let p ← round
    let again ← add (.choice [])
    link before.last p.first
    link p.last again
    link again p.first
    return ⟨before.first, again⟩

/-- At most `n` rounds after the state `entry`, with a way out to the state `last` before each. -/
def atMost (round : Build Part) (last : Nat) : (n : Nat) → (entry : Nat) → Build Unit
  | 0, entry => link entry last
  | n + 1, entry => do
    let choice ← add (.choice [])
    let p ← round
    link entry choice
    link choice p.first
    link choice last
    atMost round last n p.last

/-- The part for at least `least` and at most `most` rounds. -/
def between (round : Build Part) (least most : Nat) : Build Part := do
  let p ← exactly round least
  if least = most then return p
  else
    let last ← add (.pass 0)
    atMost round last (most - least) p.last
    return ⟨p.first, last⟩

def repetition (consumes : Bool) (round : Build Part) : (least : Nat) → (most : Option Nat) →
    Build Part
  | 0, some 1 => optional round
  | 0, .none => anyNumber consumes round
  | least + 1, .none => moreThan round least
  | least, some most => between round least most

/-- A part that is entered and left by states of its own. -/
def enclosed (inner : Build Part) : Build Part := do
  let first ← add (.pass 0)
  let p ← inner
  let last ← add (.pass 0)
  link first p.first
  link p.last last
  return ⟨first, last⟩

def addBranch (choice : Part) (branch : Build Part) : Build Unit := do
  let p ← branch
  link choice.first p.first
  link p.last choice.last

/-- The part for a choice between two branches, to which more can be added. -/
def either (p q : Build Part) : Build Part := do
  let p ← p
  let q ← q
  let first ← add (.choice [])
  let last ← add (.pass 0)
  link first p.first
  link p.last last
  link first q.first
  link q.last last
  return ⟨first, last⟩

end Automaton

end RunQuery.Pattern
