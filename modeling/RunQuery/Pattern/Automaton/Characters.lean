import RunQuery.Pattern.Automaton.Basic
import Std.Data.HashMap

/-!
# Parts for sets of characters

A set of characters within ASCII is a single table. For any other set the rows of byte ranges are
added in order, so that rows with a common begin share the states for it, and what was added before
is looked up in a memory, so that rows with a common end share the states for that.

The memory holds one entry per slot. The slot is a hash of what is looked for, and an entry gives
way to the next one of its slot. So sharing can be missed, which shows in the size.

Read from right to left, rows share the states for a common end only, which is where they begin.
-/

namespace RunQuery.Pattern.Automaton

open Unicode

/-! ## Slots -/

/-- One more number under a hash. -/
def mixHash (h : UInt64) (n : Nat) : UInt64 := (h ^^^ .ofNat n) * 1099511628211

def hashNumbers (ns : List Nat) : UInt64 := ns.foldl mixHash 14695981039346656037

/-- A memory of states that were added, by their slots. -/
abbrev Memory (α : Type) : Type := Std.HashMap Nat (α × Nat)

/-- The state that a memory of `slots` slots has for a key, or else the one that is added now. -/
def remembered {α : Type} [BEq α] (slots : Nat) (memory : Memory α) (hash : UInt64) (key : α)
    (new : Build Nat) : Build (Nat × Memory α) := do
  let slot := hash.toNat % slots
  match memory[slot]? with
  | some (k, state) => if k == key then return (state, memory) else addIt slot
  | .none => addIt slot
where
  /-- The state that is added, which takes the slot. -/
  addIt (slot : Nat) : Build (Nat × Memory α) := do
    let state ← new
    return (state, memory.insert slot (key, state))

/-! ## From left to right -/

/-- A table that is not finished: its transitions, the last one first, and the range of one more
transition whose next state is not known. -/
structure OpenTable where
  /-- The transitions. -/
  done : List Transition
  /-- The range of the transition to come. -/
  pending : Option ByteRange

/-- The table with its pending transition. -/
def OpenTable.finish (t : OpenTable) (next : Nat) : OpenTable :=
  match t.pending with
  | some r => ⟨⟨r, next⟩ :: t.done, .none⟩
  | .none => t

def tableNumbers (ts : List Transition) : List Nat :=
  ts.flatMap fun t ↦ [t.bytes.first.toNat, t.bytes.last.toNat, t.next]

/-- How many tables are remembered. -/
def tableSlots : Nat := 10000

def addFinished (memory : Memory (List Transition)) (t : OpenTable) :
    Build (Nat × Memory (List Transition)) :=
  let ts := t.done.reverse
  remembered tableSlots memory (hashNumbers (tableNumbers ts)) ts (add (.table ts))

/-- Add tables that follow one another, the deepest first; the last one leads to `target`. The
result is the state of the first one. -/
def addChain (target : Nat) (memory : Memory (List Transition)) :
    List OpenTable → Build (Nat × Memory (List Transition))
  | [] => return (target, memory)
  | t :: deeper => do
    let (next, memory) ← addChain target memory deeper
    addFinished memory (t.finish next)

/-- The tables for the rows so far: the first table, and those that follow it for the last row. -/
structure OpenRows where
  /-- The first table. -/
  root : OpenTable
  /-- The tables after it, down to the last byte of the last row. -/
  deeper : List OpenTable

/-- The tables for the ranges of a row, each of them pending. -/
def pendingTables (row : List ByteRange) : List OpenTable := row.map fun r ↦ ⟨[], some r⟩

/-- Add a row below a table. As long as a table waits for the range of the row, it stays open; the
tables below are finished, and the rest of the row begins new ones. -/
def addRow (target : Nat) (memory : Memory (List Transition)) (rows : OpenRows) :
    List ByteRange → Build (OpenRows × Memory (List Transition))
  | [] => return (rows, memory)
  | r :: row =>
    match rows.deeper with
    | t :: deeper =>
      if rows.root.pending = some r then do
        let (rest, memory) ← addRow target memory ⟨t, deeper⟩ row
        return (⟨rows.root, rest.root :: rest.deeper⟩, memory)
      else startHere (t :: deeper) r row
    | [] => startHere [] r row
where
  /-- Finish what lies below the table and start the row there. -/
  startHere (deeper : List OpenTable) (r : ByteRange) (row : List ByteRange) :
      Build (OpenRows × Memory (List Transition)) := do
    let (next, memory) ← addChain target memory deeper
    return (⟨{ rows.root.finish next with pending := some r }, pendingTables row⟩, memory)

def addRows (target : Nat) (memory : Memory (List Transition)) (sofar : OpenRows) :
    List (List ByteRange) → Build (OpenRows × Memory (List Transition))
  | [] => return (sofar, memory)
  | row :: rows => do
    let (sofar, memory) ← addRow target memory sofar row
    addRows target memory sofar rows

/-- The part for the characters of a set, from left to right. -/
def addForward (rows : List (List ByteRange)) : Build Part := do
  let target ← add (.pass 0)
  let (all, memory) ← addRows target ∅ ⟨⟨[], .none⟩, []⟩ rows
  let (next, memory) ← addChain target memory all.deeper
  let (first, _) ← addFinished memory (all.root.finish next)
  return ⟨first, target⟩

/-! ## From right to left -/

/-- How many ends of rows are remembered. -/
def endSlots : Nat := 1000

/-- Add the bytes of a row so that the first one leads to the state `next`, or find them. The result
is the state of the last one. -/
def addBackward (memory : Memory (Nat × ByteRange)) (next : Nat) :
    List ByteRange → Build (Nat × Memory (Nat × ByteRange))
  | [] => return (next, memory)
  | r :: row => do
    let hash := hashNumbers [next, r.first.toNat, r.last.toNat]
    let (state, memory) ← remembered endSlots memory hash (next, r) (add (.byte ⟨r, next⟩))
    addBackward memory state row

/-- The branches of a choice for rows read from right to left. -/
def addBackwardRows (choice : Part) (memory : Memory (Nat × ByteRange)) :
    List (List ByteRange) → Build Unit
  | [] => return
  | row :: rows => do
    let (state, memory) ← addBackward memory choice.last row
    link choice.first state
    addBackwardRows choice memory rows

/-- The part for the characters of a set, from right to left. -/
def addReverse (rows : List (List ByteRange)) : Build Part := do
  let first ← add (.choice [])
  let last ← add (.pass 0)
  addBackwardRows ⟨first, last⟩ ∅ rows
  return ⟨first, last⟩

/-! ## Any set -/

/-- The direction in which an automaton reads a text. -/
inductive Direction where
  /-- From left to right. -/
  | forward
  /-- From right to left. -/
  | backward

def Direction.order (bytes : List UInt8) : Direction → List UInt8
  | .forward => bytes
  | .backward => bytes.reverse

def isAscii (s : Ranges) : Bool := s.all (·.last < 0x80)

def addSet (direction : Direction) (s : Ranges) : Build Part :=
  if isAscii s then addTable (s.map fun r ↦ .ofDigits 0 r.first r.last)
  else
    let rows := s.flatMap ByteRange.rows
    match direction with
    | .forward => addForward rows
    | .backward => addReverse rows

end RunQuery.Pattern.Automaton
