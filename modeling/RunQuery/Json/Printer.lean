import RunQuery.Json.Reader
import RunQuery.Unicode.Ranges

/-!
# Writing JSON

The text of data, on one line without blanks or over several lines with an indent of two blanks a
level. Members come in the order in which they stand. Empty lists and objects take up no lines of
their own.
-/

namespace RunQuery.Json

/-- The escape of a control character: a short one where there is one, else its code point. -/
def escapeControl (c : Char) : List Char :=
  match c with
  | '\x08' => ['\\', 'b']
  | '\x0c' => ['\\', 'f']
  | '\n' => ['\\', 'n']
  | '\r' => ['\\', 'r']
  | '\t' => ['\\', 't']
  | c =>
    let ds := Nat.toDigits 16 c.toNat
    '\\' :: 'u' :: List.replicate (4 - ds.length) '0' ++ ds

def escapeChar (c : Char) : List Char :=
  if c = '"' then ['\\', '"']
  else if c = '\\' then ['\\', '\\']
  else if c.toNat < 0x20 then escapeControl c
  else [c]

def quoteString (s : String) : List Char := '"' :: s.toList.flatMap escapeChar ++ ['"']

def boolWord (b : Bool) : List Char := if b then ['t', 'r', 'u', 'e'] else ['f', 'a', 'l', 's', 'e']

/-! ## On one line -/

mutual

/-- The characters of data on one line. -/
def compactChars : Json → List Char
  | .null => ['n', 'u', 'l', 'l']
  | .bool b => boolWord b
  | .number n => n.text.toList
  | .string s => quoteString s
  | .array items => '[' :: compactItems items ++ [']']
  | .object members => '\x7b' :: compactMembers members ++ ['\x7d']

/-- Items with commas between them. -/
def compactItems : List Json → List Char
  | [] => []
  | [item] => compactChars item
  | item :: items => compactChars item ++ ',' :: compactItems items

/-- Members with commas between them. -/
def compactMembers : List (String × Json) → List Char
  | [] => []
  | [(key, value)] => quoteString key ++ ':' :: compactChars value
  | (key, value) :: members =>
    quoteString key ++ ':' :: compactChars value ++ ',' :: compactMembers members

end

/-- The text of data on one line. -/
def compact (json : Json) : String := String.ofList (compactChars json)

/-! ## Over several lines -/

/-- A line end and the indent of a level. -/
def newLine (level : Nat) : List Char := '\n' :: List.replicate (2 * level) ' '

mutual

/-- The characters of data that stands at the given level. -/
def prettyChars (level : Nat) : Json → List Char
  | .null => ['n', 'u', 'l', 'l']
  | .bool b => boolWord b
  | .number n => n.text.toList
  | .string s => quoteString s
  | .array [] => ['[', ']']
  | .array (item :: items) =>
    '[' :: newLine (level + 1) ++ prettyChars (level + 1) item ++ prettyItems (level + 1) items ++
      newLine level ++ [']']
  | .object [] => ['\x7b', '\x7d']
  | .object ((key, value) :: members) =>
    '\x7b' :: newLine (level + 1) ++ quoteString key ++ ':' :: ' ' ::
      prettyChars (level + 1) value ++ prettyMembers (level + 1) members ++
      newLine level ++ ['\x7d']

/-- The items after the first one, each on a line of its own. -/
def prettyItems (level : Nat) : List Json → List Char
  | [] => []
  | item :: items => ',' :: newLine level ++ prettyChars level item ++ prettyItems level items

/-- The members after the first one, each on a line of its own. -/
def prettyMembers (level : Nat) : List (String × Json) → List Char
  | [] => []
  | (key, value) :: members =>
    ',' :: newLine level ++ quoteString key ++ ':' :: ' ' :: prettyChars level value ++
      prettyMembers level members

end

/-- The text of data over several lines. -/
def pretty (json : Json) : String := String.ofList (prettyChars 0 json)

end RunQuery.Json
