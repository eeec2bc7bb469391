/-!
# Characters as bytes

The UTF-8 form of a text, and the reading of bytes as UTF-8. Reading refuses overlong forms,
surrogates and code points beyond the last one, and says where the first fault lies and how many
bytes it takes up.
-/

namespace RunQuery.Text.Utf8

/-- The first fault of a byte sequence that is not UTF-8. -/
inductive Fault where
  /-- `length` bytes from `index` on begin no character. -/
  | invalid (length index : Nat)
  /-- The bytes end inside the character that begins at `index`. -/
  | incomplete (index : Nat)
  deriving DecidableEq, Repr

def Fault.message : Fault → String
  | .invalid length index =>
    "invalid utf-8 sequence of " ++ Nat.repr length ++ " bytes from index " ++ Nat.repr index
  | .incomplete index => "incomplete utf-8 byte sequence from index " ++ Nat.repr index

/-- The bytes of a text. -/
def encode (text : List Char) : List UInt8 := text.flatMap String.utf8EncodeChar

/-- Is this a byte that continues a character? -/
def isContinuation (b : UInt8) : Bool := 0x80 ≤ b && b ≤ 0xBF

/-- How many bytes the character that starts with `b` takes up, and the bounds of its second byte;
`none` where no character starts with `b`. The bounds keep out overlong forms, surrogates and code
points beyond the last. -/
def leadByte (b : UInt8) : Option (Nat × UInt8 × UInt8) :=
  if b < 0x80 then some (1, 0x80, 0xBF)
  else if 0xC2 ≤ b ∧ b ≤ 0xDF then some (2, 0x80, 0xBF)
  else if b = 0xE0 then some (3, 0xA0, 0xBF)
  else if b = 0xED then some (3, 0x80, 0x9F)
  else if 0xE1 ≤ b ∧ b ≤ 0xEF then some (3, 0x80, 0xBF)
  else if b = 0xF0 then some (4, 0x90, 0xBF)
  else if 0xF1 ≤ b ∧ b ≤ 0xF3 then some (4, 0x80, 0xBF)
  else if b = 0xF4 then some (4, 0x80, 0x8F)
  else none

/-- The payload bits of a continuation byte. -/
def payload (b : UInt8) : Nat := b.toNat % 64

/-- Read the bytes from position `index` on. -/
def decodeFrom (index : Nat) : List UInt8 → Except Fault (List Char)
  | [] => .ok []
  | b :: rest =>
    match leadByte b with
    | none => .error (.invalid 1 index)
    | some (size, low, high) =>
      if size = 1 then
        (decodeFrom (index + 1) rest).map (Char.ofNat b.toNat :: ·)
      else match rest with
        | [] => .error (.incomplete index)
        | b₂ :: rest =>
          if ¬(low ≤ b₂ ∧ b₂ ≤ high) then .error (.invalid 1 index)
          else if size = 2 then
            (decodeFrom (index + 2) rest).map
              (Char.ofNat (b.toNat % 32 * 64 + payload b₂) :: ·)
          else match rest with
            | [] => .error (.incomplete index)
            | b₃ :: rest =>
              if ¬isContinuation b₃ then .error (.invalid 2 index)
              else if size = 3 then
                (decodeFrom (index + 3) rest).map
                  (Char.ofNat (b.toNat % 16 * 4096 + payload b₂ * 64 + payload b₃) :: ·)
              else match rest with
                | [] => .error (.incomplete index)
                | b₄ :: rest =>
                  if ¬isContinuation b₄ then .error (.invalid 3 index)
                  else
                    (decodeFrom (index + 4) rest).map
                      (Char.ofNat (b.toNat % 8 * 262144 + payload b₂ * 4096 + payload b₃ * 64
                        + payload b₄) :: ·)

/-- The text whose UTF-8 form the bytes are, or their first fault. -/
def decode (bytes : List UInt8) : Except Fault (List Char) := decodeFrom 0 bytes

end RunQuery.Text.Utf8
