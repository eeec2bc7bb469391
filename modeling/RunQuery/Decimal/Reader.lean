import RunQuery.Decimal.Basic

/-!
# Numbers in free text

The reading of a whole text as one double: an optional sign, then digits with an optional point
and exponent, or one of the words `inf`, `infinity` and `nan` in any case. The result is the
nearest double, infinity where the number is too great.
-/

namespace RunQuery.Decimal

/-- An optional sign at the front: whether it is a minus, and the rest. -/
def splitSign : List Char → Bool × List Char
  | '+' :: rest => (false, rest)
  | '-' :: rest => (true, rest)
  | text => (false, text)

/-- An exponent after its letter: an optional sign and one or more digits, and nothing else. -/
def readExponent (text : List Char) : Option Int :=
  let (negative, ds) := splitSign text
  if ds.isEmpty || !ds.all isDigit then none
  else some (if negative then -(ofDigits ds : Int) else ofDigits ds)

/-- What may follow the digits: nothing, or the letter `e` and an exponent. -/
def readScale : List Char → Option Int
  | [] => some 0
  | 'e' :: rest => readExponent rest
  | 'E' :: rest => readExponent rest
  | _ => none

/-- An unsigned number: digits on at least one side of an optional point, and an optional
exponent. -/
def readUnsigned (text : List Char) : Option Decimal :=
  let whole := text.takeWhile isDigit
  let afterWhole := text.dropWhile isDigit
  let (fraction, rest) := match afterWhole with
    | '.' :: after => (after.takeWhile isDigit, after.dropWhile isDigit)
    | other => ([], other)
  if whole.isEmpty && fraction.isEmpty then none
  else (readScale rest).map fun scale ↦
    ⟨ofDigits (whole ++ fraction), scale - fraction.length⟩

/-- The lower-case form of an ASCII letter; all else as it is. -/
def lowerAscii (c : Char) : Char :=
  if 'A' ≤ c && c ≤ 'Z' then Char.ofNat (c.toNat + 32) else c

/-- The double that a whole text writes, if it writes one. -/
def read? (text : String) : Option Double :=
  let (negative, body) := splitSign text.toList
  let word := String.ofList (body.map lowerAscii)
  if word = "inf" ∨ word = "infinity" then some (Double.infinity negative)
  else if word = "nan" then some Double.nan
  else (readUnsigned body).map fun d ↦ Double.signed negative d.toRank

end RunQuery.Decimal
