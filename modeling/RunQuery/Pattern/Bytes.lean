import RunQuery.Unicode.Ranges

/-!
# Ranges of characters as ranges of bytes

The characters of a range, written in UTF-8, are the byte strings that take each byte from a range
of its own, for finitely many rows of such ranges. The rows come in ascending order. A character of
`k` continuation bytes is a number of `k + 1` digits to base 64, and a range of such numbers splits
by its first digit: a first digit that begins amid its numbers, whole digits, and a last digit that
ends amid them.
-/

namespace RunQuery.Pattern

open Unicode

/-- A range of bytes, both ends included. -/
structure ByteRange where
  /-- The first byte. -/
  first : UInt8
  /-- The last byte. -/
  last : UInt8
  deriving DecidableEq, Repr

namespace ByteRange

def single (b : UInt8) : ByteRange := ⟨b, b⟩

def contains (r : ByteRange) (b : UInt8) : Bool := r.first ≤ b && b ≤ r.last

/-- A range of digits as bytes that begin with a mark. -/
def ofDigits (mark first last : Nat) : ByteRange := ⟨.ofNat (mark + first), .ofNat (mark + last)⟩

def continuation : ByteRange := ofDigits 0x80 0 63

/-- The rows for the numbers from `first` to `last` of a first digit, which is marked, and `count`
more digits. -/
def digitRows (mark : Nat) : (count : Nat) → (first last : Nat) → List (List ByteRange)
  | 0, first, last => [[ofDigits mark first last]]
  | count + 1, first, last =>
    let unit := Nat.pow 64 (count + 1)
    let (a, b) := (first / unit, last / unit)
    let row (digit first last : Nat) : List (List ByteRange) :=
      (digitRows 0x80 count first last).map (ofDigits mark digit digit :: ·)
    if a = b then row a (first % unit) (last % unit)
    else
      let startsWhole := first % unit = 0
      let endsWhole := last % unit = unit - 1
      let (c, d) := (if startsWhole then a else a + 1, if endsWhole then b + 1 else b)
      (if startsWhole then [] else row a (first % unit) (unit - 1)) ++
        (if c < d then [ofDigits mark c (d - 1) :: List.replicate (count + 1) continuation]
          else []) ++
        (if endsWhole then [] else row b 0 (last % unit))

/-- The code points of each length in bytes: the mark of the first byte, the number of continuation
bytes, and the range. The surrogates are in none. -/
def lengths : List (Nat × Nat × Range) :=
  [(0, 0, ⟨0, 0x7F⟩), (0xC0, 1, ⟨0x80, 0x7FF⟩), (0xE0, 2, ⟨0x800, 0xD7FF⟩),
   (0xE0, 2, ⟨0xE000, 0xFFFF⟩), (0xF0, 3, ⟨0x10000, lastCode⟩)]

def rows (r : Range) : List (List ByteRange) :=
  lengths.flatMap fun (mark, count, block) ↦
    (Ranges.inter [r] [block]).flatMap fun s ↦ digitRows mark count s.first s.last

end ByteRange

end RunQuery.Pattern
