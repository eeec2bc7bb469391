import RunQuery.Json.Reader
import RunQuery.Value.Basic

/-!
# JSON with numbers that are not finite

Metrics are written by programs that put the bare words `NaN`, `Infinity` and `-Infinity` where a
number is meant, which JSON has no word for. In this reading each of the three stands for a
*placeholder*, a string that begins with a control character and so does not occur otherwise: one
pass over the characters puts the placeholders in the place of the words that are not inside of a
string, the text is then read as JSON, and the placeholders among its values become numbers.

Since a bare word is no more than another spelling of its placeholder, a document that spells the
placeholder out as a string means the number too.
-/

namespace RunQuery.Json.Extended

/-! ## Placeholders -/

/-- The string that a bare word stands for. -/
def placeholder (n : NonFinite) : String := "\x01runboard:" ++ n.word

/-- The number that a placeholder stands for. -/
def ofPlaceholder? (text : String) : Option NonFinite :=
  NonFinite.all.find? fun n ↦ placeholder n == text

/-! ## The pass over the text -/

/-- The bare word at the front of a text, and what follows it. -/
def bareWord? (text : List Char) : Option (NonFinite × List Char) :=
  NonFinite.all.findSome? fun n ↦
    (Token.afterWord? n.word.toList text).map fun rest ↦ (n, rest)

theorem length_bareWord? {text rest : List Char} {n : NonFinite}
    (h : bareWord? text = some (n, rest)) : rest.length < text.length := by
  obtain ⟨m, -, hm⟩ := List.exists_of_findSome?_eq_some h
  obtain ⟨after, hafter, heq⟩ := Option.map_eq_some_iff.1 hm
  cases heq
  have hlength := Token.length_afterWord? hafter
  have hpos : 0 < n.word.toList.length := by cases n <;> decide
  omega

/-- Where the pass stands, as far as quotes and backslashes tell. -/
inductive Place where
  /-- Outside of strings. -/
  | outside
  /-- Inside of a string. -/
  | inside
  /-- Inside of a string, after a backslash. -/
  | escaped
  deriving DecidableEq

namespace Place

/-- The place after a character. -/
def next : Place → Char → Place
  | outside, c => if c = '"' then inside else outside
  | inside, c => if c = '\\' then escaped else if c = '"' then outside else inside
  | escaped, _ => inside

/-- The bare word at the front of a text, where words count. -/
def word? : Place → List Char → Option (NonFinite × List Char)
  | outside, text => bareWord? text
  | _, _ => none

theorem length_word? {p : Place} {text rest : List Char} {n : NonFinite}
    (h : p.word? text = some (n, rest)) : rest.length < text.length := by
  cases p with
  | outside => exact length_bareWord? h
  | inside => cases h
  | escaped => cases h

end Place

/-- The text in which each bare word is a quoted placeholder, from a place on. -/
def rewrite (p : Place) (text : List Char) : List Char :=
  match text with
  | [] => []
  | c :: rest =>
    match h : p.word? (c :: rest) with
    | some (n, after) =>
      have : after.length < (c :: rest).length := Place.length_word? h
      -- the quotes of the placeholder are closed, so the pass is outside of strings again
      quoteString (placeholder n) ++ rewrite .outside after
    | none => c :: rewrite (p.next c) rest
termination_by text.length
decreasing_by
  · assumption
  · exact Nat.lt_succ_self _

/-! ## Values -/

mutual

/-- The value of JSON data in which placeholders stand for numbers. -/
def toValue : Json → Value
  | .null => .null
  | .bool b => .bool b
  | .number n => .number n.toDouble
  | .string s =>
    match ofPlaceholder? s with
    | some n => .number n.toDouble
    | none => .string s
  | .array items => .array (itemsToValue items)
  | .object members => .object (membersToValue members)

def itemsToValue : List Json → List Value
  | [] => []
  | item :: items => toValue item :: itemsToValue items

def membersToValue : List (String × Json) → List (String × Value)
  | [] => []
  | (name, json) :: members => (name, toValue json) :: membersToValue members

end

/-- The value that a text denotes, in canonical form. -/
def parse (text : String) : Option Value :=
  (Json.parse (String.ofList (rewrite .outside text.toList))).map toValue

end RunQuery.Json.Extended
