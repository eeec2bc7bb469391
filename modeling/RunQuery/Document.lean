import RunQuery.Value.Basic

/-!
# Documents

What a reader of typed data may ask of a document, whatever format it was written in. Each format
answers in its own way: in one a number is never a text, in another a plain word can be read as
either. A reader that is written against this interface works for all of them.

## Records

A record with named fields is read from members, of which unknown ones do not matter and none may
give a field twice, or from a list that holds the fields in their declared order. Where a format has
names that are not texts, a field can also be named by its place in the declared order. How a
missing field is treated is its `Presence`.

## Data whose kind is open

Where a reader asks for one of several kinds of data, a document has to say of itself what it is.
The questions about what is *proper* are for that: they do not take a number for a text.
-/

namespace RunQuery

/-- What a member of a record is named by. -/
inductive Document.Label where
  /-- By the name of a field or case. -/
  | name (text : String)
  /-- By the number of a field or case, from 0. -/
  | number (n : Nat)
  deriving DecidableEq

/-- What holds the fields of a record. -/
inductive Document.Holder (δ : Type) where
  /-- Members, in written order. -/
  | members (members : List (Document.Label × δ))
  /-- The fields in declared order; `more` tells whether items may follow them. -/
  | items (items : List δ) (more : Bool)

/-- What a typed reader may ask of a document of type `δ`. A question with a question mark has no
answer where the document is not of the kind asked for. -/
class Document (δ : Type) where
  /-- The truth value. -/
  bool? : δ → Option Bool
  /-- The whole number from zero up to the word limit. -/
  count? : δ → Option Nat
  /-- The number, as a double. -/
  double? : δ → Option Double
  /-- The text. -/
  text? : δ → Option String
  /-- What names one of several cases without data. -/
  caseLabel? : δ → Option Document.Label
  /-- The items, in order. -/
  items? : δ → Option (List δ)
  /-- The members, in written order, repeated names included. -/
  members? : δ → Option (List (String × δ))
  /-- The fields of a record. -/
  holder? : δ → Option (Document.Holder δ)
  /-- Is this the absence of a value? -/
  isNull : δ → Bool
  /-- The document as JSON data, members in written order, where it has that form throughout. -/
  json? : δ → Option Json
  /-- The document as a value of a run. -/
  value? : δ → Option Value
  /-- The text of a document that is one whoever asks. -/
  properText? : δ → Option String
  /-- The members of a document that has some whoever asks. -/
  properMembers? : δ → Option (List (Document.Label × δ))

namespace Document

variable {δ : Type} [Document δ]

/-- The document as JSON data in canonical form. -/
def toJson? (d : δ) : Option Json := (json? d).map Tree.canonical

/-! ## Records -/

/-- What to make of a field that is missing. -/
inductive Presence where
  /-- It has to be there. -/
  | required
  /-- It may be missing from an object; a list has to hold it. -/
  | nullable
  /-- It may be missing. -/
  | optional
  deriving DecidableEq

/-- The member that gives the field of a name and a number, where there is at most one. The outer
`none` says that there are more. -/
def uniqueMember? (name : String) (number : Nat) (members : List (Label × δ)) :
    Option (Option δ) :=
  match members.filter fun m ↦ m.1 == .name name || m.1 == .number number with
  | [] => some none
  | [(_, v)] => some (some v)
  | _ => none

/-- The fields of a record read from members. The first field has the given number. -/
def fieldsOfMembers? (members : List (Label × δ)) (number : Nat) :
    (fields : List (String × Presence)) → Option (List (Option δ))
  | [] => some []
  | (name, presence) :: fields => do
    let value ← uniqueMember? name number members
    if value.isNone ∧ presence = .required then none
    else return value :: (← fieldsOfMembers? members (number + 1) fields)

def fieldsOfItems? (more : Bool) : (items : List δ) → (fields : List (String × Presence)) →
    Option (List (Option δ))
  | [], [] => some []
  | _ :: _, [] => if more then some [] else none
  | item :: items, _ :: fields => (fieldsOfItems? more items fields).map (some item :: ·)
  | [], (_, presence) :: fields =>
    if presence = .optional then (fieldsOfItems? more [] fields).map (none :: ·) else none

/-- The fields of a record, in declared order, `none` for one that is missing and may be. -/
def fields? (fields : List (String × Presence)) (d : δ) : Option (List (Option δ)) :=
  match holder? d with
  | some (.members members) => fieldsOfMembers? members 0 fields
  | some (.items items more) => fieldsOfItems? more items fields
  | none => none

/-! ## Cases -/

/-- The case that a document names, out of all of them in declared order. -/
def case? {α : Type} (all : List α) (name : α → String) (d : δ) : Option α :=
  match caseLabel? d with
  | some (.name text) => all.find? fun a ↦ name a == text
  | some (.number n) => all[n]?
  | none => none

/-! ## Fields -/

/-- A value that may be absent: null, or what `read` makes of the document. -/
def orNull? {α : Type} (read : δ → Option α) (d : δ) : Option (Option α) :=
  if isNull d then some none else (read d).map some

/-- A field with a default for when it is missing. -/
def orElse? {α : Type} (read : δ → Option α) (default : α) : Option δ → Option α
  | none => some default
  | some d => read d

/-- A field whose value may be absent, by null or by being missing. -/
def orAbsent? {α : Type} (read : δ → Option α) : Option δ → Option (Option α)
  | none => some none
  | some d => orNull? read d

/-- A list of what `read` makes of the items. -/
def list? {α : Type} (read : δ → Option α) (d : δ) : Option (List α) :=
  (items? d).bind fun items ↦ items.mapM read

end Document

/-! ## JSON data as documents -/

namespace Json

def ofCount (n : Nat) : Json := .number (.int n)

def ofTexts (texts : List String) : Json := .array (texts.map .string)

/-- A value that may be absent as JSON data, null where it is. -/
def ofOption {α : Type} (write : α → Json) (value : Option α) : Json := (value.map write).getD .null

/-- What names a case: a text, or the name of a single member without a value. -/
def caseLabel? : Json → Option Document.Label
  | .string s => some (.name s)
  | .object [(name, .null)] => some (.name name)
  | _ => none

def members? : Json → Option (List (String × Json))
  | .object members => some members
  | _ => none

def items? : Json → Option (List Json)
  | .array items => some items
  | _ => none

def labelled (members : List (String × Json)) : List (Document.Label × Json) :=
  members.map fun (name, value) ↦ (.name name, value)

/-- The fields of a record. -/
def holder? : Json → Option (Document.Holder Json)
  | .object members => some (.members (labelled members))
  | .array items => some (.items items false)
  | _ => none

instance : Document Json where
  bool? | .bool b => some b
        | _ => none
  count? j := j.number?.bind Number.toCount?
  double? j := j.number?.map Number.toDouble
  text? := Tree.string?
  caseLabel? := caseLabel?
  items? := items?
  members? := members?
  holder? := holder?
  isNull := Tree.isNull
  json? := some
  value? j := some (Value.ofJson j)
  properText? := Tree.string?
  properMembers? j := (members? j).map labelled

end Json

end RunQuery
