import RunQuery.Double

/-!
# Decimal numbers

A non-negative decimal number `coefficient * 10 ^ exponent`, its nearest double, and the reading
and writing of runs of decimal digits.
-/

namespace RunQuery

/-- The number `coefficient * 10 ^ exponent`. -/
structure Decimal where
  /-- The digits, as a natural number. -/
  coefficient : Nat
  /-- The power of ten that one unit of the coefficient is worth. -/
  exponent : Int
  deriving DecidableEq, Repr

namespace Decimal

/-! ## Digits -/

def isDigit (c : Char) : Bool := '0' ≤ c && c ≤ '9'

def digitValue (c : Char) : Nat := c.toNat - '0'.toNat

/-- The number written by a run of digits, the most significant first. -/
def ofDigits (digits : List Char) : Nat :=
  digits.foldl (fun n c ↦ 10 * n + digitValue c) 0

/-- The digits of a number, the most significant first; a single zero for zero. -/
def digits (n : Nat) : List Char := Nat.toDigits 10 n

/-- A number in at least `width` digits, filled up with zeros on the left. -/
def padded (width n : Nat) : List Char :=
  let ds := digits n
  List.replicate (width - ds.length) '0' ++ ds

/-- An integer in decimal digits. -/
def ofInt (n : Int) : String :=
  if n < 0 then String.ofList ('-' :: digits n.natAbs) else String.ofList (digits n.natAbs)

/-! ## The nearest double -/

/-- The rank nearest to a decimal number. Numbers of 10 ^ 310 or more are beyond every finite
double and numbers below 10 ^ -330 are nearer to zero than to anything else, so no power of ten
greater than those is ever computed. -/
def toRank (d : Decimal) : Rank :=
  if d.coefficient = 0 then Rank.zero
  else
    let order := (digits d.coefficient).length + d.exponent
    if 310 < order then Rank.infinity
    else if order < -330 then Rank.zero
    else Rank.ofFraction (d.coefficient * Nat.pow 10 d.exponent.toNat)
      (Nat.pow 10 (-d.exponent).toNat)

end Decimal

end RunQuery
