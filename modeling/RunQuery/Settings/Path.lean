import RunQuery.Document
import RunQuery.Unicode.Case

/-!
# Paths into settings

A setting is named by a path: a name, and then names after points and indices in brackets, as in
`engine.run_page_size` or `pretty[0]`. An index below zero counts from the end of the list. Names do
not distinguish case. What is no path is a name as it is.

## Writing at the end of a path

Whatever stands in the way of a path gives way to it: a step by name makes a table of it, and a step
by index a list that is long enough. At the end of the path a table is joined with the one that
stands there, member by member, and anything else takes the place of what stands there.
-/

namespace RunQuery.Settings

/-- Settings by name, in name order. -/
abbrev Table := List (String × Json)

/-- A text in lower case. -/
def lowerName (name : String) : String := String.ofList (name.toList.flatMap Unicode.lowercase)

inductive Step where
  /-- To the member of a table. -/
  | member (name : String)
  /-- To the item of a list. -/
  | item (index : Int)
  deriving DecidableEq

abbrev Path := List Step

namespace Path

/-! ## Reading paths -/

def isNameChar (c : Char) : Bool := c.isAlphanum || c == ' ' || c == '_' || c == '-'

/-- The name at the front of a text, and what follows it. -/
def name? (text : List Char) : Option (String × List Char) :=
  let name := text.takeWhile isNameChar
  if name.isEmpty then none else some (String.ofList name, text.drop name.length)

/-- Blanks around an index. -/
def isBlank (c : Char) : Bool := c == ' ' || c == '\t'

/-- The least index that there is no room for. -/
def indexLimit : Nat := Nat.pow 2 63

/-- The index at the front of a text up to its closing bracket, and what follows that. -/
def index? (text : List Char) : Option (Int × List Char) :=
  let text := text.dropWhile isBlank
  let (negative, text) := match text with
    | '-' :: text => (true, text)
    | text => (false, text)
  let digits := text.takeWhile Decimal.isDigit
  let n := Decimal.ofDigits digits
  match (text.drop digits.length).dropWhile isBlank with
  | ']' :: rest =>
    if digits.isEmpty ∨ indexLimit < n ∨ (n = indexLimit ∧ !negative) then none
    else some (if negative then -n else n, rest)
  | _ => none

/-- The steps that a text writes after a first name. -/
def steps? (text : List Char) : Option Path :=
  let next : Option (Step × List Char) := match text with
    | '.' :: rest => (name? rest).map fun (name, rest) ↦ (.member name, rest)
    | '[' :: rest => (index? rest).map fun (index, rest) ↦ (.item index, rest)
    | _ => none
  match text, next with
  | [], _ => some []
  | text, some (step, rest) =>
    if rest.length < text.length then (steps? rest).map (step :: ·) else none
  | _, none => none
termination_by text.length

def ofText (text : String) : Path :=
  let path : Option Path := (name? text.toList).bind fun (name, rest) ↦
    (steps? rest).map (.member name :: ·)
  path.getD [.member text]

end Path

namespace Table

/-! ## Writing -/

/-- The members of a table; anything else has none. -/
def ofData : Json → Table
  | .object members => members
  | _ => []

/-- The items of a list; anything else has none. -/
def itemsOf : Json → List Json
  | .array items => items
  | _ => []

mutual

/-- Write a value under a name. -/
def put (name : String) (table : Table) : Json → Table
  | .object members =>
    let old := (lookupEntry (lowerName name) table).getD (.object [])
    insertEntry (lowerName name) (join old members) table
  | value => insertEntry (lowerName name) value table

/-- Write values under their names into a table. If there are any, anything else becomes a table. -/
def join (old : Json) : List (String × Json) → Json
  | [] => old
  | (name, value) :: members => join (.object (put name (ofData old) value)) members

end

/-- The place of an index in a list of a length; none if it lies before the list. -/
def place? (index : Int) (length : Nat) : Option Nat :=
  if 0 ≤ index then some index.toNat
  else if index.natAbs ≤ length then some (length - index.natAbs)
  else none

/-- A list with nulls behind it up to a place. -/
def padded (place : Nat) (items : List Json) : List Json :=
  items ++ List.replicate (place + 1 - items.length) .null

/-- Write a value at the end of a path. There is no result if an index lies before its list. -/
def writeAt? (value : Json) : (path : Path) → (old : Json) → Option Json
  | [], _ => some value
  | [.member name], old => some (.object (put name (ofData old) value))
  | .member name :: path, old => do
    let name := lowerName name
    let inner := (lookupEntry name (ofData old)).getD .null
    return .object (insertEntry name (← writeAt? value path inner) (ofData old))
  | .item index :: path, old => do
    let place ← place? index (itemsOf old).length
    let items := padded place (itemsOf old)
    let item ← writeAt? value path (items.getD place .null)
    return .array (items.set place item)

def write? (table : Table) (entry : String × Json) : Option Table :=
  (writeAt? entry.2 (Path.ofText entry.1) (.object table)).map ofData

end Table

end RunQuery.Settings
