import RunQuery.Content
import RunQuery.Decimal.Reader
import RunQuery.Unicode.Ranges

/-!
# Plain scalars of YAML

What a plain scalar stands for by itself: null, a truth value, an integer, a float or else a text.
Integers may be written in base two, eight and sixteen; digits that begin with a needless zero are a
text. An integer that 128 bits hold and 64 bits do not cannot be read; a longer one is a float, and
a float beyond the finite doubles is a text.
-/

namespace RunQuery.Yaml.Plain

def isNullWord (text : String) : Bool := ["null", "Null", "NULL", "~"].contains text

def isNull (text : String) : Bool := text.isEmpty || isNullWord text

/-- The truth value that a word names. -/
def bool? (text : String) : Option Bool :=
  if ["true", "True", "TRUE"].contains text then some true
  else if ["false", "False", "FALSE"].contains text then some false
  else none

/-! ## Numbers -/

/-- Do the digits, after a sign, begin with a needless zero? -/
def hasNeedlessZero (text : List Char) : Bool :=
  match (Decimal.splitSign text).2 with
  | '0' :: c :: rest => (c :: rest).all Decimal.isDigit
  | _ => false

/-- The number that the digits of a base write. -/
def digitsIn? (base : Nat) (digits : List Char) : Option Nat :=
  if digits.isEmpty then none
  else
    digits.foldlM (fun n c ↦ (Unicode.hexValue? c).bind fun d ↦
      if d < base then some (base * n + d) else none) 0

/-- The natural number that unsigned text writes. -/
def magnitude? : List Char → Option Nat
  | '0' :: 'x' :: digits => digitsIn? 16 digits
  | '0' :: 'o' :: digits => digitsIn? 8 digits
  | '0' :: 'b' :: digits => digitsIn? 2 digits
  | digits => digitsIn? 10 digits

/-- The integer that the text writes: whether there is a minus sign, and what follows the sign. -/
def integer? (text : String) : Option (Bool × Nat) :=
  if hasNeedlessZero text.toList then none
  else
    let (negative, body) := Decimal.splitSign text.toList
    (magnitude? body).map fun n ↦ (negative, n)

/-- The integer of the given sign as content, if it has no more than 128 bits. -/
def ofInteger? : Bool × Nat → Option Content
  | (false, n) =>
    if n < Nat.pow 2 64 then some (.natural n)
    else if n < Nat.pow 2 128 then some .unreadable
    else none
  | (true, n) =>
    if n ≤ Nat.pow 2 63 then some (.negative n)
    else if n ≤ Nat.pow 2 127 then some .unreadable
    else none

def integerContent? (text : String) : Option Content := (integer? text).bind ofInteger?

/-- The words for floats that are not finite. -/
def nonFinite? (text : String) : Option Double :=
  if [".inf", ".Inf", ".INF", "+.inf", "+.Inf", "+.INF"].contains text then
    some (Double.infinity false)
  else if ["-.inf", "-.Inf", "-.INF"].contains text then some (Double.infinity true)
  else if [".nan", ".NaN", ".NAN"].contains text then some Double.nan
  else none

def float? (text : String) : Option Double :=
  (nonFinite? text).or ((Decimal.read? text).filter Double.isFinite)

/-! ## Content -/

/-- What a plain scalar stands for. -/
def content (text : String) : Content :=
  if isNull text then .null
  else
    let number := (integerContent? text).or <|
      if hasNeedlessZero text.toList then none else (float? text).map .float
    match bool? text, number with
    | some b, _ => .bool b
    | none, some number => number
    | none, none => .text text

end RunQuery.Yaml.Plain
