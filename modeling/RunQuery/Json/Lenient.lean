import RunQuery.Content
import RunQuery.Json.Reader

/-!
# JSON texts as content

A reader of records passes over members that it does not know. They have to be JSON, but what is in
them need not have a meaning: numbers may exceed every double, escapes in texts may be halves of
surrogate pairs, and lists and objects may be nested however deep. Here such parts are content that
cannot be read, and an object with such a key is as a whole.
-/

namespace RunQuery.Json

namespace Lenient

/-- A token, or something with the form of one. -/
inductive Piece where
  /-- A token. -/
  | token (t : Token)
  /-- A text without a meaning. -/
  | text
  /-- A number without a meaning. -/
  | number

/-- What follows the closing quote of a string whose escapes are not looked at. -/
def afterString? : List Char → Option (List Char)
  | [] => none
  | '"' :: rest => some rest
  | '\\' :: 'u' :: a :: b :: c :: d :: rest =>
    if (Token.hex4? a b c d).isSome then afterString? rest else none
  | '\\' :: e :: rest => if (Token.shortEscape? e).isSome then afterString? rest else none
  | c :: rest => if c.toNat < 0x20 ∨ c = '\\' then none else afterString? rest

/-- The piece at the front of a text that does not begin with white space, and what follows. -/
def scan? (text : List Char) : Option (Piece × List Char) :=
  match Token.scan text with
  | some (t, rest) => some (.token t, rest)
  | none =>
    match text with
    | '"' :: rest => (afterString? rest).map fun rest ↦ (.text, rest)
    | text => (Token.scanNumeral text).map fun (_, rest) ↦ (.number, rest)

def scanAll? (text : List Char) : Option (List Piece) :=
  match text with
  | [] => some []
  | c :: rest =>
    if Token.isBlank c then scanAll? rest
    else
      match scan? (c :: rest) with
      | none => none
      | some (piece, after) =>
        -- holds of every piece; it is asked so that the recursion ends
        if after.length < (c :: rest).length then (scanAll? after).map (piece :: ·) else none
termination_by text.length
decreasing_by
  · exact Nat.lt_succ_self _
  · assumption

/-- A list or object that is open, around a value that is being read. The last item or member stands
first. -/
inductive Frame where
  /-- A list. -/
  | list (items : List Content)
  /-- An object, with the key of the value. -/
  | object (members : List (Content × Content)) (key : Content)

/-- What may come next. -/
inductive Expectation where
  /-- A value. -/
  | value
  /-- A value, or the end of the list that has just been opened. -/
  | firstItem
  /-- A key, or the end of the object that has just been opened. -/
  | firstKey
  /-- A key, after the members so far. -/
  | key (members : List (Content × Content))
  /-- A colon, after the members so far and a key. -/
  | colon (members : List (Content × Content)) (key : Content)
  /-- What may follow the value just read. -/
  | afterValue (value : Content)

/-- The state of the reader. -/
structure Reader where
  /-- The lists and objects that are open, the innermost first. -/
  stack : List Frame
  /-- What may come next. -/
  expect : Expectation

namespace Reader

/-- The reader after a list or an object, which cannot be read if it is too deep. -/
def closed (stack : List Frame) (content : Content) : Reader :=
  ⟨stack, .afterValue (if stack.length < nestingLimit then content else .unreadable)⟩

/-- The object of some members, the last of which stands first. -/
def object (members : List (Content × Content)) : Content :=
  if members.any fun m ↦ m.1.text?.isNone then .unreadable else .mapping members.reverse

def beginValue? (stack : List Frame) : Piece → Option Reader
  | .token .null => some ⟨stack, .afterValue .null⟩
  | .token (.bool b) => some ⟨stack, .afterValue (.bool b)⟩
  | .token (.number n) => some ⟨stack, .afterValue (Content.ofJson (.number n))⟩
  | .token (.string s) => some ⟨stack, .afterValue (.text s)⟩
  | .token .beginArray => some ⟨.list [] :: stack, .firstItem⟩
  | .token .beginObject => some ⟨stack, .firstKey⟩
  | .token _ => none
  | .text => some ⟨stack, .afterValue .unreadable⟩
  | .number => some ⟨stack, .afterValue .unreadable⟩

def key? : Piece → Option Content
  | .token (.string s) => some (.text s)
  | .text => some .unreadable
  | _ => none

/-- Take the token after the value of an innermost list or object. -/
def afterValue? (value : Content) : List Frame → Token → Option Reader
  | .list items :: stack, .comma => some ⟨.list (value :: items) :: stack, .value⟩
  | .list items :: stack, .endArray => some (closed stack (.list (value :: items).reverse))
  | .object members key :: stack, .comma => some ⟨stack, .key ((key, value) :: members)⟩
  | .object members key :: stack, .endObject =>
    some (closed stack (object ((key, value) :: members)))
  | _, _ => none

/-- Take the next piece. -/
def step? (r : Reader) (piece : Piece) : Option Reader :=
  match r.expect, piece with
  | .value, piece => beginValue? r.stack piece
  | .firstItem, .token .endArray => some (closed r.stack.tail (.list []))
  | .firstItem, piece => beginValue? r.stack piece
  | .firstKey, .token .endObject => some (closed r.stack (.mapping []))
  | .firstKey, piece => (key? piece).map fun key ↦ ⟨r.stack, .colon [] key⟩
  | .key members, piece => (key? piece).map fun key ↦ ⟨r.stack, .colon members key⟩
  | .colon members key, .token .colon => some ⟨.object members key :: r.stack, .value⟩
  | .afterValue value, .token t => afterValue? value r.stack t
  | _, _ => none

/-- The content of the whole text, where nothing is open and a value has been read. -/
def finish? (r : Reader) : Option Content :=
  match r.stack, r.expect with
  | [], .afterValue value => some value
  | _, _ => none

end Reader

end Lenient

def readContent (text : String) : Option Content := do
  let pieces ← Lenient.scanAll? text.toList
  (← pieces.foldlM Lenient.Reader.step? ⟨[], .value⟩).finish?

end RunQuery.Json
