/-!
# Double-precision numbers

Binary floating point with a 53-bit significand, held by *rank*. The non-negative doubles from
zero to infinity stand in one increasing line; the rank of a number is its place in that line, so
zero has rank 0 and infinity the last rank. A double is a sign and a rank, or not a number.

Two consequences make this form convenient. Comparison is comparison of integers, with no case for
exponents; and rounding a real number is choosing a rank, where a carry out of the significand is
the next rank and needs no case either.

Only one not-a-number value exists here, the one whose sign bit is not set. Every text that stands
for such a value is read as that one, so no run can hold another; a bit pattern with the sign bit
set, which a total order would tell from it, never occurs.
-/

namespace RunQuery

/-- The rank of infinity: 2046 binades of 2 ^ 52 numbers each, and the subnormal numbers. -/
def infinityRank : Nat := 2047 * Nat.pow 2 52

/-- The place of a non-negative double in increasing order, from zero to infinity. -/
abbrev Rank := Fin (infinityRank + 1)

/-- A double-precision number. -/
inductive Double where
  /-- Not a number. -/
  | nan
  /-- The number of the given sign whose magnitude has the given rank. -/
  | signed (negative : Bool) (rank : Rank)
  deriving DecidableEq, Inhabited

/-! ## Ranks -/

namespace Rank

def zero : Rank := ⟨0, by simp⟩

def infinity : Rank := ⟨infinityRank, by simp⟩

/-- The rank `n`, or that of infinity where `n` lies beyond it. -/
def clamp (n : Nat) : Rank := ⟨min n infinityRank, by omega⟩

/-- A finite magnitude is `significand * 2 ^ exponent`. The exponent of the subnormal numbers is
that of the smallest normal ones. -/
def significand (r : Rank) : Nat :=
  if r.val < Nat.pow 2 52 then r.val else Nat.pow 2 52 + r.val % Nat.pow 2 52

/-- The power of two that one unit of the significand is worth. -/
def exponent (r : Rank) : Int :=
  if r.val < Nat.pow 2 52 then -1074 else (r.val / Nat.pow 2 52 : Nat) - 1075

/-- A rank as a fraction: `significand * 2 ^ exponent`, numerator and denominator. -/
def fraction (r : Rank) : Nat × Nat :=
  (r.significand * Nat.pow 2 r.exponent.toNat, Nat.pow 2 (-r.exponent).toNat)

/-- The quotient rounded to the nearest integer, a half to the even neighbour. -/
def divideToEven (num den : Nat) : Nat :=
  let q := num / den
  let twice := 2 * (num % den)
  if twice < den then q
  else if den < twice then q + 1
  else q + q % 2

/-- The greatest `e` with `2 ^ e ≤ num / den`, for positive `num` and `den`. -/
def binaryOrder (num den : Nat) : Int :=
  let e : Int := num.log2 - den.log2
  if num * Nat.pow 2 (-e).toNat < den * Nat.pow 2 e.toNat then e - 1 else e

/-- The rank nearest to `num / den`, of two the even one; infinity where that is nearest. -/
def ofFraction (num den : Nat) : Rank :=
  if num = 0 then zero
  else
    let unit : Int := max (binaryOrder num den - 52) (-1074)
    let significand := divideToEven (num * Nat.pow 2 (-unit).toNat) (den * Nat.pow 2 unit.toNat)
    -- the leading bit of a normal significand counts for one binade by itself
    clamp (significand + (unit + 1074).toNat * Nat.pow 2 52)

/-- The rank nearest to a natural number. -/
def ofNat (n : Nat) : Rank := ofFraction n 1

/-- The rounded product. -/
def mul (a b : Rank) : Rank :=
  ofFraction (a.fraction.1 * b.fraction.1) (a.fraction.2 * b.fraction.2)

/-- The rounded quotient by a positive number. -/
def div (a b : Rank) : Rank :=
  ofFraction (a.fraction.1 * b.fraction.2) (a.fraction.2 * b.fraction.1)

end Rank

/-! ## Doubles -/

namespace Double

/-- Positive zero. -/
def zero : Double := signed false Rank.zero

/-- Infinity of the given sign. -/
def infinity (negative : Bool) : Double := signed negative Rank.infinity

/-- Is this not a number? -/
def isNaN : Double → Bool
  | nan => true
  | signed _ _ => false

/-- Is this neither infinite nor not-a-number? -/
def isFinite : Double → Bool
  | nan => false
  | signed _ r => r.val != infinityRank

/-- The place on the number line, counted in ranks from zero: both zeros have place 0, and a
greater number has a greater place. -/
def place (negative : Bool) (rank : Rank) : Int :=
  if negative then -(rank.val : Int) else rank.val

/-- The double of the opposite sign. -/
def neg : Double → Double
  | nan => nan
  | signed s r => signed (!s) r

/-- Numeric equality: the zeros are equal, and not-a-number differs from everything. -/
def numEq : Double → Double → Bool
  | signed s r, signed s' r' => place s r == place s' r'
  | _, _ => false

/-- Numeric `<`, false where either side is not a number. -/
def numLt : Double → Double → Bool
  | signed s r, signed s' r' => place s r < place s' r'
  | _, _ => false

/-- Numeric `≤`, false where either side is not a number. -/
def numLe : Double → Double → Bool
  | signed s r, signed s' r' => place s r ≤ place s' r'
  | _, _ => false

/-- The integer by which all doubles are ordered, the negative zero below the positive one and
not-a-number above infinity. -/
def orderKey : Double → Int
  | nan => infinityRank + 1
  | signed false r => r.val
  | signed true r => -(r.val : Int) - 1

/-- The total order of the doubles. -/
def totalCompare (x y : Double) : Ordering := compare x.orderKey y.orderKey

/-- The greater of two numbers, the second of two that are equal; not-a-number gives way to the
other side. -/
def max (x y : Double) : Double :=
  if x.isNaN || numLe x y then y else x

/-- The lesser of two numbers, the second of two that are equal; not-a-number gives way to the other
side. -/
def min (x y : Double) : Double :=
  if x.isNaN || numLe y x then y else x

/-- The nearest natural number, a half going up; zero for what is negative or not a number. -/
def roundToNat : Double → Nat
  | signed false r => (2 * r.fraction.1 + r.fraction.2) / (2 * r.fraction.2)
  | _ => 0

/-- The double nearest to an integer. -/
def ofInt (n : Int) : Double := signed (n < 0) (Rank.ofNat n.natAbs)

/-- The double nearest to a natural number. -/
def ofNat (n : Nat) : Double := signed false (Rank.ofNat n)

/-- The rounded quotient of a finite number by a positive natural number. -/
def divNat : Double → Nat → Double
  | nan, _ => nan
  | signed s r, n => signed s (r.div (Rank.ofNat n))

end Double

end RunQuery
