import RunQuery.Decimal.Layout

/-!
# Numbers of JSON texts

A number keeps the form in which it was written: whole numbers without point or exponent stay
integers as long as they fit in 64 bits, all others are doubles. So `1` and `1.0` are different
numbers.

## Reading loses digits

The double of a number is not the nearest one. Its digits are collected into a 64-bit significand;
once another digit would not fit, further digits before the point only raise the exponent and
further digits after it are dropped. The significand is then multiplied or divided by a power of
ten, and each step rounds. Short numbers come out exact; long ones may be a little off.
-/

namespace RunQuery.Json

/-- A number of a JSON text. -/
inductive Number where
  /-- A whole number written without point and exponent. -/
  | int (n : Int)
  /-- Any other number. -/
  | float (x : Double)
  deriving DecidableEq, Inhabited

namespace Number

/-- The nearest double. -/
def toDouble : Number → Double
  | int n => Double.ofInt n
  | float x => x

/-- Numbers are equal that are of one form and numerically equal. -/
def equal : Number → Number → Bool
  | int m, int n => m == n
  | float x, float y => Double.numEq x y
  | _, _ => false

/-- The least integer that no longer fits in 64 bits. -/
def wordLimit : Nat := Nat.pow 2 64

/-- The count written by a number: a whole number from zero up to the word limit. -/
def toCount? : Number → Option Nat
  | int n => if 0 ≤ n ∧ n < wordLimit then some n.toNat else none
  | float _ => none

/-- Doubles are written positionally from order -5 to order 15, whole ones with `.0`, and with a
signed exponent outside of that. -/
def floatLayout : Decimal.Layout := ⟨some (-5), some 16, true, .even⟩

/-- The written form of a number. A number that is not finite has none and is written as null. -/
def text : Number → String
  | int n => Decimal.ofInt n
  | float (.signed negative r) =>
    if r.val = infinityRank then "null" else floatLayout.ofFinite negative r
  | float .nan => "null"

end Number

/-- The parts of a number as written. -/
structure Numeral where
  /-- Does it begin with a minus sign? -/
  negative : Bool
  /-- The digits before the point. -/
  whole : List Char
  /-- The digits after the point, if there is a point. -/
  fraction : Option (List Char)
  /-- The exponent, if there is one. -/
  exponent : Option Int
  deriving DecidableEq

namespace Numeral

/-- Collect digits into a significand as long as it fits in 64 bits. The result is the significand
and the number of digits taken. -/
def collect (significand : Nat) : List Char → Nat × Nat
  | [] => (significand, 0)
  | d :: ds =>
    let next := 10 * significand + Decimal.digitValue d
    if next < Number.wordLimit then
      let (s, taken) := collect next ds
      (s, taken + 1)
    else (significand, 0)

/-- The rounded power of ten. -/
def power (k : Nat) : Rank := Rank.ofNat (Nat.pow 10 k)

/-- `significand * 10 ^ exponent` in rounded steps; `none` where that exceeds every finite double.
Ten to the power 308 is the greatest that is used. One division by it is enough to bring a
smaller exponent into range, or else the result is zero. -/
def scale (significand : Nat) (exponent : Int) : Option Rank :=
  let f := Rank.ofNat significand
  if significand = 0 then some Rank.zero
  else if 308 < exponent then none
  else if 0 ≤ exponent then
    let r := f.mul (power exponent.toNat)
    if r.val = infinityRank then none else some r
  else if -308 ≤ exponent then some (f.div (power (-exponent).toNat))
  else if -616 ≤ exponent then some ((f.div (power 308)).div (power (-exponent - 308).toNat))
  else some Rank.zero

/-- The number that is written; `none` where it exceeds every finite double. -/
def value (n : Numeral) : Option Number :=
  let (significand, taken) := collect 0 n.whole
  if n.fraction.isNone ∧ n.exponent.isNone ∧ taken = n.whole.length then
    some <|
      if n.negative = false then .int significand
      -- no integer is a zero with a sign, and the least one has a magnitude of `2 ^ 63`
      else if significand = 0 ∨ Nat.pow 2 63 < significand then
        .float (.signed true (Rank.ofNat significand))
      else .int (-significand)
  else
    let (significand, placed) := collect significand (n.fraction.getD [])
    -- digits before the point that were not taken still count as places
    let exponent := (n.whole.length - taken : Nat) - (placed : Int) + n.exponent.getD 0
    (scale significand exponent).map fun r ↦ .float (.signed n.negative r)

end Numeral

end RunQuery.Json
