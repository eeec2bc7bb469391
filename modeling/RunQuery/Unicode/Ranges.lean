/-!
# Sets of characters as ranges

A set of code points given by its ranges in ascending order, the operations on such sets, and the
notation in which the tables of the standard properties are written down: hexadecimal code points
separated by blanks, two of them joined by a hyphen for a range, and a number after a slash where
only every so-many-th code point of the range is meant.
-/

namespace RunQuery.Unicode

/-- The value of a hexadecimal digit in either case. -/
def hexValue? (c : Char) : Option Nat :=
  if '0' ≤ c ∧ c ≤ '9' then some (c.toNat - '0'.toNat)
  else if 'A' ≤ c ∧ c ≤ 'F' then some (c.toNat - 'A'.toNat + 10)
  else if 'a' ≤ c ∧ c ≤ 'f' then some (c.toNat - 'a'.toNat + 10)
  else none

/-- The number written by hexadecimal digits; `none` for no digits or another character. -/
def hexNumber? (digits : List Char) : Option Nat :=
  if digits.isEmpty then none
  else digits.foldlM (fun n c ↦ (hexValue? c).map (16 * n + ·)) 0

/-- A range of code points, both ends included. -/
structure Range where
  /-- The first code point. -/
  first : Nat
  /-- The last code point. -/
  last : Nat
  deriving DecidableEq, Repr

namespace Range

def single (n : Nat) : Range := ⟨n, n⟩

/-- The range between two code points, whichever comes first. -/
def spanning (m n : Nat) : Range := ⟨min m n, max m n⟩

end Range

def lastCode : Nat := 0x10FFFF

/-- The code point after one; none lies among the surrogates. -/
def codeAfter (n : Nat) : Nat := if n = 0xD7FF then 0xE000 else n + 1

/-- The code point before one; none lies among the surrogates. -/
def codeBefore (n : Nat) : Nat := if n = 0xE000 then 0xD7FF else n - 1

/-- A set of code points as a list of ranges in ascending order. -/
abbrev Ranges := List Range

namespace Ranges

/-- Does the code point lie in one of the ranges? Those after it are not looked at. -/
def holds : Ranges → Nat → Bool
  | [], _ => false
  | r :: rest, n => if n < r.first then false else n ≤ r.last || holds rest n

/-- Does the code point of `c` lie in one of the ranges? -/
def contains (rs : Ranges) (c : Char) : Bool := rs.holds c.toNat

/-! ## Operations -/

/-- The range and those after it, which begin no earlier, with neighbours that overlap or touch made
one. -/
def joined (r : Range) : Ranges → Ranges
  | [] => [r]
  | s :: rest =>
    if s.first ≤ r.last + 1 then joined ⟨r.first, max r.last s.last⟩ rest else r :: joined s rest

/-- The set of any ranges: in order, none of them touching the next. -/
def normal (rs : Ranges) : Ranges :=
  match rs.mergeSort (fun r s ↦ r.first ≤ s.first) with
  | [] => []
  | r :: rest => joined r rest

/-- What is in one of two sets. -/
def union (rs ss : Ranges) : Ranges := normal (rs ++ ss)

/-- What is in both sets. -/
def inter : Ranges → Ranges → Ranges
  | [], _ => []
  | _, [] => []
  | r :: rs, s :: ss =>
    let common := if max r.first s.first ≤ min r.last s.last then
        [⟨max r.first s.first, min r.last s.last⟩]
      else []
    if r.last < s.last then common ++ inter rs (s :: ss) else common ++ inter (r :: rs) ss
termination_by rs ss => rs.length + ss.length

/-- The range from one code point to another, if the one is not after the other. -/
def upTo (m n : Nat) : Ranges := if m ≤ n then [⟨m, n⟩] else []

/-- What the set lacks from a code point on. -/
def gapsFrom (n : Nat) : Ranges → Ranges
  | [] => upTo n lastCode
  | r :: rest => (if r.first = 0 then [] else upTo n (codeBefore r.first)) ++
      gapsFrom (codeAfter r.last) rest

/-- What is in the first set and not in the second. -/
def diff (rs ss : Ranges) : Ranges := inter rs (gapsFrom 0 ss)

/-- What is in just one of two sets. -/
def symm (rs ss : Ranges) : Ranges := diff (union rs ss) (inter rs ss)

/-- What follows a range up to the end, with the ranges that lie there cut out. What lies between
two ranges spans from the code point after the one to the code point before the other; where nothing
but the surrogates lies there, these two are the ends of the ranges themselves. -/
def complAfter (r : Range) : Ranges → Ranges
  | [] => if r.last < lastCode then [⟨codeAfter r.last, lastCode⟩] else []
  | s :: rest => .spanning (codeAfter r.last) (codeBefore s.first) :: complAfter s rest

/-- What is not in a set. -/
def compl : Ranges → Ranges
  | [] => [⟨0, lastCode⟩]
  | r :: rest => (if 0 < r.first then [⟨0, codeBefore r.first⟩] else []) ++ complAfter r rest

/-! ## Tables -/

def readEntry (entry : List Char) : Option Ranges := do
  let span := entry.takeWhile (· != '/')
  let first ← hexNumber? (span.takeWhile (· != '-'))
  match span.dropWhile (· != '-'), entry.dropWhile (· != '/') with
  | [], _ => return [.single first]
  | _ :: last, [] => return [⟨first, ← hexNumber? last⟩]
  | _ :: last, _ :: step =>
    let step ← hexNumber? step
    let count := ((← hexNumber? last) - first) / step + 1
    return (List.range count).map fun i ↦ .single (first + i * step)

/-- The ranges of a table in the notation above. Text that is not an entry is skipped. -/
def ofTable (table : String) : Ranges :=
  ((table.map fun c ↦ if c = '\n' then ' ' else c).splitOn " ").flatMap fun entry ↦
    (readEntry entry.toList).getD []

end Ranges

/-- A table and the names by which patterns call its set, in the loose spelling of names. -/
structure NamedTable where
  /-- The names. -/
  names : List String
  /-- The table. -/
  table : String

namespace NamedTable

def ranges (t : NamedTable) : Ranges := .ofTable t.table

def find? (ts : List NamedTable) (name : String) : Option Ranges :=
  (List.find? (·.names.contains name) ts).map ranges

end NamedTable

end RunQuery.Unicode
