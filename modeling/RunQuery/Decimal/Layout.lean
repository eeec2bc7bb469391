import RunQuery.Decimal.Shortest

/-!
# Written numbers

How the shortest decimal of a double is laid out: in positional notation or with an exponent, and
with or without a decimal point after a whole number. What one text format decides is one
`Layout`; the formats themselves name theirs.
-/

namespace RunQuery.Decimal

/-- The decisions of a number format. The order of a number is the decimal exponent of its first
digit. -/
structure Layout where
  /-- The lowest order written positionally. -/
  leastOrder : Option Int
  /-- The lowest order no longer written positionally. -/
  orderLimit : Option Int
  /-- Do whole numbers in positional notation end in `.0`? -/
  wholeMark : Bool
  /-- Which of two equally near shortest decimals is written. -/
  tie : Tie

namespace Layout

/-- Are numbers of this order written positionally? -/
def isPositional (l : Layout) (order : Int) : Bool :=
  l.leastOrder.all (· ≤ order) && l.orderLimit.all (order < ·)

/-- Digits with the decimal point after the first `whole` of them; zeros fill the gap on either
side. -/
def positional (l : Layout) (digits : List Char) (whole : Int) : List Char :=
  if whole ≤ 0 then
    '0' :: '.' :: (List.replicate (-whole).toNat '0' ++ digits)
  else
    let fraction := digits.drop whole.toNat
    let integer := digits.take whole.toNat ++
      List.replicate (whole.toNat - digits.length) '0'
    if fraction.isEmpty then
      if l.wholeMark then integer ++ ['.', '0'] else integer
    else integer ++ '.' :: fraction

/-- Digits with the point after the first of them, and the exponent with its sign. -/
def scientific (digits : List Char) (order : Int) : List Char :=
  let mantissa := match digits with
    | [] => []
    | [d] => [d]
    | d :: rest => d :: '.' :: rest
  let sign := if order < 0 then '-' else '+'
  mantissa ++ 'e' :: sign :: Decimal.digits order.natAbs

/-- A decimal other than zero, written out. -/
def ofDecimal (l : Layout) (d : Decimal) : List Char :=
  let ds := digits d.coefficient
  let order := d.exponent + ds.length - 1
  if l.isPositional order then l.positional ds (order + 1) else scientific ds order

/-- A finite double, written out. -/
def ofFinite (l : Layout) (negative : Bool) (r : Rank) : String :=
  let magnitude :=
    if r.val = 0 then (if l.wholeMark then ['0', '.', '0'] else ['0'])
    else l.ofDecimal (shortest l.tie r)
  String.ofList (if negative then '-' :: magnitude else magnitude)

end Layout

end RunQuery.Decimal
