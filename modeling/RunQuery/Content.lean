import RunQuery.Document

/-!
# Content of files

What a file holds before anybody has asked for something in particular. It is like JSON data, but
numbers need not be finite, whatever holds content may name its members by any content, and there
can be parts that cannot be read. Such a part does no harm as long as nobody looks at it.
-/

namespace RunQuery

/-- The content of a file. -/
inductive Content where
  /-- No value. -/
  | null
  /-- A truth value. -/
  | bool (b : Bool)
  /-- A whole number written without a minus sign. -/
  | natural (n : Nat)
  /-- A whole number written with a minus sign; `n` is what follows the sign. -/
  | negative (n : Nat)
  /-- Any other number. -/
  | float (x : Double)
  /-- A text. -/
  | text (s : String)
  /-- A list. -/
  | list (items : List Content)
  /-- Named members, in written order. -/
  | mapping (members : List (Content × Content))
  /-- Something that cannot be read. -/
  | unreadable
  deriving Inhabited

namespace Content

/-! ## As other data -/

def text? : Content → Option String
  | text s => some s
  | _ => none

mutual

def ofJson : Json → Content
  | .null => null
  | .bool b => bool b
  | .number (.int n) => if n < 0 then negative n.natAbs else natural n.natAbs
  | .number (.float x) => float x
  | .string s => text s
  | .array items => list (ofItems items)
  | .object members => mapping (ofMembers members)

def ofItems : List Json → List Content
  | [] => []
  | item :: items => ofJson item :: ofItems items

def ofMembers : List (String × Json) → List (Content × Content)
  | [] => []
  | (name, value) :: members => (text name, ofJson value) :: ofMembers members

end

mutual

/-- The content as data whose numbers are made by `int` and `float`. Only texts can name members
there. -/
def toTree? {ν : Type} (int : Int → Tree ν) (ofFloat : Double → Tree ν) :
    Content → Option (Tree ν)
  | null => some .null
  | bool b => some (.bool b)
  | natural n => some (int n)
  | negative n => some (int (-n))
  | float x => some (ofFloat x)
  | text s => some (.string s)
  | list items => (toItems? int ofFloat items).map .array
  | mapping members => (toMembers? int ofFloat members).map .object
  | unreadable => none

def toItems? {ν : Type} (int : Int → Tree ν) (ofFloat : Double → Tree ν) :
    List Content → Option (List (Tree ν))
  | [] => some []
  | item :: items => do return (← toTree? int ofFloat item) :: (← toItems? int ofFloat items)

def toMembers? {ν : Type} (int : Int → Tree ν) (ofFloat : Double → Tree ν) :
    List (Content × Content) → Option (List (String × Tree ν))
  | [] => some []
  | (key, value) :: members => do
    return (← key.text?, ← toTree? int ofFloat value) :: (← toMembers? int ofFloat members)

end

/-- A float as JSON data: null if it is not finite. -/
def floatToJson (x : Double) : Json := if x.isFinite then .number (.float x) else .null

def toJson? : Content → Option Json := toTree? (fun n ↦ .number (.int n)) floatToJson

/-- The content as a value of a run. -/
def toValue? : Content → Option Value := toTree? (fun n ↦ .number (Double.ofInt n)) .number

mutual

def isReadable : Content → Bool
  | list items => areReadable items
  | mapping members => membersReadable members
  | unreadable => false
  | _ => true

/-- Can all items be read? -/
def areReadable : List Content → Bool
  | [] => true
  | item :: items => isReadable item && areReadable items

def membersReadable : List (Content × Content) → Bool
  | [] => true
  | (key, value) :: members => isReadable key && isReadable value && membersReadable members

end

/-! ## As a document -/

/-- What content names as the name or the number of something. -/
def label? : Content → Option Document.Label
  | text s => some (.name s)
  | natural n => some (.number n)
  | _ => none

/-- What names a case: a text or a number, by itself or as the name of a single member without a
value. A number has to have a member. -/
def caseLabel? : Content → Option Document.Label
  | text s => some (.name s)
  | mapping [(key, null)] => label? key
  | _ => none

/-- Members with what `name?` makes of their names. -/
def membersBy? {α : Type} (name? : Content → Option α) : Content → Option (List (α × Content))
  | mapping members => members.mapM fun (key, value) ↦ (name? key).map fun name ↦ (name, value)
  | _ => none

/-- The fields of a record. -/
def holder? : Content → Option (Document.Holder Content)
  | list items => some (.items items false)
  | content => (membersBy? label? content).map .members

instance : Document Content where
  bool? | bool b => some b
        | _ => none
  count? | natural n => if n < Json.Number.wordLimit then some n else none
         | negative n => if n = 0 then some 0 else none
         | _ => none
  double? | natural n => some (Double.ofInt n)
          | negative n => some (Double.ofInt (-n))
          | float x => some x
          | _ => none
  text? := text?
  caseLabel? := caseLabel?
  items? | list items => some items
         | _ => none
  members? := membersBy? text?
  holder? := holder?
  isNull | null => true
         | _ => false
  json? := toJson?
  value? := toValue?
  properText? := text?
  properMembers? content := if content.isReadable then membersBy? label? content else none

end Content

end RunQuery
