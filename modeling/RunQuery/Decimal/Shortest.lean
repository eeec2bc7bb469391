import RunQuery.Decimal.Basic

/-!
# Shortest decimals

The decimal number with the fewest digits among those that round to a given double, and of these
the nearest to it.

## The search

The real numbers that round to a double form an interval around it: half way to its neighbours on
either side, ends included where its significand is even. Below a power of two the neighbour is
only half as far away, which is why the interval is measured in quarters of a unit. If any number
of a decimal grid lies in that interval, then so does one of the two grid points next to the
double itself. The search therefore tries those two on ever finer grids, and stops at the first
hit. It starts on a grid coarser than the number itself, so no estimate of its size has to be
exact.
-/

namespace RunQuery.Decimal

/-- Which of two equally near decimals is taken. -/
inductive Tie where
  /-- The one whose last digit is even. -/
  | even
  /-- The greater one. -/
  | up
  deriving DecidableEq, Repr

/-- The reals that round to a positive finite double, all scaled by one positive factor so that
they are integers over a common denominator. -/
structure RoundingInterval where
  /-- The lower end. -/
  low : Nat
  /-- The double itself. -/
  value : Nat
  /-- The upper end. -/
  high : Nat
  /-- The common denominator. -/
  den : Nat
  /-- Do the ends belong to the interval? -/
  closed : Bool

namespace RoundingInterval

/-- The interval of the reals that round to the double of rank `r`. -/
def ofRank (r : Rank) : RoundingInterval :=
  let m := r.significand
  let quarter := r.exponent - 2
  let scale := Nat.pow 2 quarter.toNat
  -- the least significand also stands in the lowest binade, where doubles are evenly spaced
  let below := if m = Nat.pow 2 52 ∧ r.exponent ≠ -1074 then 1 else 2
  { low := (4 * m - below) * scale
    value := 4 * m * scale
    high := (4 * m + 2) * scale
    den := Nat.pow 2 (-quarter).toNat
    closed := m % 2 = 0 }

/-- Does `n / d` lie in the interval? -/
def contains (i : RoundingInterval) (n d : Nat) : Bool :=
  if i.closed then i.low * d ≤ n * i.den && n * i.den ≤ i.high * d
  else i.low * d < n * i.den && n * i.den < i.high * d

/-- The point of the grid of step `10 ^ k` that stands for the interval, if one of the two around
its value lies in it. -/
def gridPoint (i : RoundingInterval) (tie : Tie) (k : Int) : Option Nat :=
  let num := Nat.pow 10 k.toNat
  let den := Nat.pow 10 (-k).toNat
  let floor := i.value * den / (i.den * num)
  let remainder := i.value * den % (i.den * num)
  let lower := i.contains (floor * num) den
  let upper := i.contains ((floor + 1) * num) den
  match lower, upper with
  | false, false => none
  | true, false => some floor
  | false, true => some (floor + 1)
  | true, true =>
    if 2 * remainder < i.den * num then some floor
    else if i.den * num < 2 * remainder then some (floor + 1)
    else match tie with
      | .even => some (floor + floor % 2)
      | .up => some (floor + 1)

/-- Try the grids of step `10 ^ k`, `10 ^ (k - 1)`, … until one has a hit. -/
def search (i : RoundingInterval) (tie : Tie) : (grids : Nat) → (k : Int) → Decimal
  | 0, k => ⟨i.value * Nat.pow 10 (-k).toNat / (i.den * Nat.pow 10 k.toNat), k⟩
  | grids + 1, k =>
    match i.gridPoint tie k with
    | some c => ⟨c, k⟩
    | none => search i tie grids (k - 1)

end RoundingInterval

/-- The shortest decimal that rounds to the positive finite double of rank `r`, and of these the
nearest. Two grids above the number itself and eighteen below it are always enough, since
seventeen digits tell all doubles apart. -/
def shortest (tie : Tie) (r : Rank) : Decimal :=
  let i := RoundingInterval.ofRank r
  -- the decimal logarithm of two, a little too small
  let order := Rank.binaryOrder i.value i.den * 1233 / 4096
  i.search tie 22 (order + 2)

end RunQuery.Decimal
