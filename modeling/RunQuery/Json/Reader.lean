import RunQuery.Json.Token
import RunQuery.Tree

/-!
# Reading JSON

The data that a JSON text denotes. Reading is one pass over the tokens: a machine holds a stack of
the lists and objects that are open, each with what it has so far, and what may come next. Every
token moves the machine on or is refused, and the text is accepted if it ends right after its one
value.

At most 127 lists and objects may be open at a time.

`read` keeps the members of objects in the order in which they were written, repeated keys
included, so that a caller can refuse repetitions; `parse` gives the canonical form, in which the
last one of each key stands.
-/

namespace RunQuery

/-- The data of JSON texts. -/
abbrev Json := Tree Json.Number

namespace Json

/-- The number of lists and objects that may be open at a time. -/
def nestingLimit : Nat := 127

/-- A list or object that is open, around a value that is being read. -/
inductive Frame where
  /-- A list, with its items so far, the last one first. -/
  | array (items : List Json)
  /-- An object, with its members so far, the last one first, and the key of the value. -/
  | object (members : List (String × Json)) (key : String)

/-- What may come next. -/
inductive Expectation where
  /-- A value. -/
  | value
  /-- A value, or the end of the list that has just been opened. -/
  | firstItem
  /-- A key, or the end of the object that has just been opened. -/
  | firstKey
  /-- A key, after the members so far. -/
  | key (members : List (String × Json))
  /-- A colon, after the members so far and a key. -/
  | colon (members : List (String × Json)) (key : String)
  /-- What may follow the value just read. -/
  | afterValue (value : Json)

/-- The state of the reader. -/
structure Reader where
  /-- The lists and objects that are open, the innermost first. -/
  stack : List Frame
  /-- What may come next. -/
  expect : Expectation

namespace Reader

/-- Before the first token. -/
def start : Reader := ⟨[], .value⟩

def beginValue (stack : List Frame) : Token → Option Reader
  | .null => some ⟨stack, .afterValue .null⟩
  | .bool b => some ⟨stack, .afterValue (.bool b)⟩
  | .number n => some ⟨stack, .afterValue (.number n)⟩
  | .string s => some ⟨stack, .afterValue (.string s)⟩
  | .beginArray =>
    if stack.length < nestingLimit then some ⟨.array [] :: stack, .firstItem⟩ else none
  | .beginObject =>
    -- an object comes onto the stack with its first colon, since its frame has a key
    if stack.length < nestingLimit then some ⟨stack, .firstKey⟩ else none
  | _ => none

/-- Take the token after the value of an innermost list or object. -/
def afterValue (value : Json) : List Frame → Token → Option Reader
  | .array items :: stack, .comma => some ⟨.array (value :: items) :: stack, .value⟩
  | .array items :: stack, .endArray =>
    some ⟨stack, .afterValue (.array (value :: items).reverse)⟩
  | .object members key :: stack, .comma => some ⟨stack, .key ((key, value) :: members)⟩
  | .object members key :: stack, .endObject =>
    some ⟨stack, .afterValue (.object ((key, value) :: members).reverse)⟩
  | _, _ => none

/-- Take the next token. -/
def step (r : Reader) (t : Token) : Option Reader :=
  match r.expect, t with
  | .value, t => beginValue r.stack t
  | .firstItem, .endArray => some ⟨r.stack.tail, .afterValue (.array [])⟩
  | .firstItem, t => beginValue r.stack t
  | .firstKey, .endObject => some ⟨r.stack, .afterValue (.object [])⟩
  | .firstKey, .string k => some ⟨r.stack, .colon [] k⟩
  | .key members, .string k => some ⟨r.stack, .colon members k⟩
  | .colon members k, .colon => some ⟨.object members k :: r.stack, .value⟩
  | .afterValue v, t => afterValue v r.stack t
  | _, _ => none

/-- The value of the whole text, where nothing is open and a value has been read. -/
def finish (r : Reader) : Option Json :=
  match r.stack, r.expect with
  | [], .afterValue v => some v
  | _, _ => none

end Reader

/-- The data that a sequence of tokens denotes. -/
def ofTokens (tokens : List Token) : Option Json :=
  (tokens.foldlM Reader.step Reader.start).bind Reader.finish

/-- The data that a text denotes, members in written order. -/
def read (text : String) : Option Json := (Token.scanAll text.toList).bind ofTokens

/-- The data that a text denotes, in canonical form. -/
def parse (text : String) : Option Json := (read text).map Tree.canonical

end Json

end RunQuery
