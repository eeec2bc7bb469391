import RunQuery.Text.Utf8
import RunQuery.Unicode.Ranges

/-!
# Percent-encoded text

Text as it stands in a link: the bytes of its UTF-8 form, each written as a percent sign and two
hexadecimal digits, apart from the letters, digits and marks that may stand for themselves.

Reading takes hexadecimal digits of either case. A percent sign without two of them after it stands
for itself, as every other character does.
-/

namespace RunQuery.Text.Percent

/-- Bytes that stand for themselves in a link. -/
def isUnreserved (b : UInt8) : Bool :=
  let c := Char.ofNat b.toNat
  ('A' ≤ c && c ≤ 'Z') || ('a' ≤ c && c ≤ 'z') || ('0' ≤ c && c ≤ '9') ||
    c == '-' || c == '_' || c == '.' || c == '~'

/-- The upper-case hexadecimal digit of a number below sixteen. -/
def hexDigit (n : Nat) : Char :=
  if n < 10 then Char.ofNat ('0'.toNat + n) else Char.ofNat ('A'.toNat + (n - 10))

/-- The written form of a byte. -/
def encodeByte (b : UInt8) : List Char :=
  if isUnreserved b then [Char.ofNat b.toNat]
  else ['%', hexDigit (b.toNat / 16), hexDigit (b.toNat % 16)]

def encode (text : String) : String :=
  String.ofList ((Utf8.encode text.toList).flatMap encodeByte)

/-- The value of a hexadecimal digit given as a byte. -/
def hexByte? (b : UInt8) : Option Nat := Unicode.hexValue? (Char.ofNat b.toNat)

def decodeBytes : List UInt8 → List UInt8
  | 0x25 :: high :: low :: rest =>
    match hexByte? high, hexByte? low with
    | some h, some l => UInt8.ofNat (16 * h + l) :: decodeBytes rest
    | _, _ => 0x25 :: decodeBytes (high :: low :: rest)
  | b :: rest => b :: decodeBytes rest
  | [] => []

/-- The text that a percent-encoded one stands for; its bytes have to be UTF-8. -/
def decode (text : String) : Except Utf8.Fault String :=
  (Utf8.decode (decodeBytes (Utf8.encode text.toList))).map String.ofList

end RunQuery.Text.Percent
