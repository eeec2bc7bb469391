import RunQuery.Unicode.Property

/-!
# Character classes

The properties of characters that texts and patterns are read by: white space, decimal digits,
word characters, letters, and the characters that are shown as they are in a quoted text. What is
done with a text by them comes last: the white space at its ends is left out, and a message shows it
as somebody would have to type it.
-/

namespace RunQuery.Unicode

def whiteSpaceRanges : Ranges :=
  [⟨0x09, 0x0D⟩, ⟨0x20, 0x20⟩, ⟨0x85, 0x85⟩, ⟨0xA0, 0xA0⟩, ⟨0x1680, 0x1680⟩, ⟨0x2000, 0x200A⟩,
   ⟨0x2028, 0x2029⟩, ⟨0x202F, 0x202F⟩, ⟨0x205F, 0x205F⟩, ⟨0x3000, 0x3000⟩]

/-- Is this a white-space character? -/
def isWhiteSpace (c : Char) : Bool := whiteSpaceRanges.contains c

/-! ## In patterns -/

/-- The decimal digits of any script. -/
def digitRanges : Ranges := Category.ranges .nd

/-- The letters and what counts as such. -/
def alphabeticRanges : Ranges := SetTerm.alphabetic.ranges

/-- The word characters: what is alphabetic, marks, digits, connectors, and the two zero-width
joiners. -/
def wordRanges : Ranges :=
  Ranges.normal (alphabeticRanges ++ Category.rangesOf [.mn, .mc, .me, .nd, .pc] ++
    [⟨0x200C, 0x200D⟩])

/-! ## In texts -/

/-- Is this a letter, or what counts as such? -/
def isAlphabetic (c : Char) : Bool :=
  alphabeticRanges.contains c || Additions.alphabetic.contains c

def numberRanges : Ranges := Category.rangesOf Category.numbers

/-- Is this a letter, or what counts as such, or a number? -/
def isAlphanumeric (c : Char) : Bool :=
  isAlphabetic c || numberRanges.contains c || Additions.digits.contains c

/-- What is shown in a quoted text: the characters that have a visible form of their own and stand
alone. The half-width voiced sound marks are shown though they join the character before them, and
the fillers of Hangul have no form. -/
def shownRanges : Ranges :=
  let hidden := SetTerm.either (.categories [.zs, .zl, .zp, .cc, .cf, .co])
    (.either (.except .graphemeExtend (.table "FF9E-FF9F")) (.table "115F 1160 3164 FFA0"))
  (SetTerm.except .assigned hidden).ranges.union (Additions.all.diff Additions.joiningMarks)

/-- Is the character shown as it is in a quoted text? -/
def isShown (c : Char) : Bool := c == ' ' || shownRanges.contains c

end RunQuery.Unicode

namespace RunQuery.Text

open Unicode

/-! ## Trimmed text -/

/-- Characters without the white space before them and after them. -/
def trimChars (text : List Char) : List Char :=
  ((text.dropWhile isWhiteSpace).reverse.dropWhile isWhiteSpace).reverse

/-- A text without the white space at its ends. -/
def trim (text : String) : String := String.ofList (trimChars text.toList)

/-- Does the text hold nothing but white space? -/
def isBlank (text : String) : Bool := text.toList.all isWhiteSpace

/-! ## Quoted text

A message shows a text between double quotes, with a backslash before quotes and backslashes, short
escapes for the common control characters, and `\u` with the code point in braces for every other
character that has no visible form of its own. -/

/-- The hexadecimal digits of a number, in lower case. -/
def hexDigits (n : Nat) : List Char := Nat.toDigits 16 n

def quoteChar (c : Char) : List Char :=
  match c with
  | '"' => ['\\', '"']
  | '\\' => ['\\', '\\']
  | '\n' => ['\\', 'n']
  | '\r' => ['\\', 'r']
  | '\t' => ['\\', 't']
  | '\x00' => ['\\', '0']
  | c =>
    if isShown c then [c]
    else '\\' :: 'u' :: '\x7b' :: hexDigits c.toNat ++ ['\x7d']

def quoted (text : String) : String :=
  String.ofList ('"' :: text.toList.flatMap quoteChar ++ ['"'])

end RunQuery.Text
