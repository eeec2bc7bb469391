import RunQuery.Unicode.Class

/-!
# Named classes of ASCII

The sets that a pattern names within ASCII: the classes in brackets and colons, and what the classes
of a letter are where a pattern does not use those of all scripts.
-/

namespace RunQuery.Pattern.AsciiClass

open Unicode

def digit : Ranges := [⟨0x30, 0x39⟩]

/-- The letters. -/
def alpha : Ranges := [asciiUpper, asciiLower]

def word : Ranges := [⟨0x30, 0x39⟩, asciiUpper, ⟨0x5F, 0x5F⟩, asciiLower]

def space : Ranges := [⟨0x09, 0x0D⟩, ⟨0x20, 0x20⟩]

/-- The class of that name, such as `alpha`. -/
def ofName? (name : String) : Option Ranges :=
  match name with
  | "alnum" => some [⟨0x30, 0x39⟩, asciiUpper, asciiLower]
  | "alpha" => some alpha
  | "ascii" => some [⟨0, 0x7F⟩]
  | "blank" => some [⟨0x09, 0x09⟩, ⟨0x20, 0x20⟩]
  | "cntrl" => some [⟨0, 0x1F⟩, ⟨0x7F, 0x7F⟩]
  | "digit" => some digit
  | "graph" => some [⟨0x21, 0x7E⟩]
  | "lower" => some [asciiLower]
  | "print" => some [⟨0x20, 0x7E⟩]
  | "punct" => some [⟨0x21, 0x2F⟩, ⟨0x3A, 0x40⟩, ⟨0x5B, 0x60⟩, ⟨0x7B, 0x7E⟩]
  | "space" => some space
  | "upper" => some [asciiUpper]
  | "word" => some word
  | "xdigit" => some [⟨0x30, 0x39⟩, ⟨0x41, 0x46⟩, ⟨0x61, 0x66⟩]
  | _ => none

end RunQuery.Pattern.AsciiClass
