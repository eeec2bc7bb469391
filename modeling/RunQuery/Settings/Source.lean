import RunQuery.Settings.Path
import RunQuery.Yaml.Node
import RunQuery.Yaml.Plain

/-!
# Sources of settings

Settings come from several sources, each of which is read into data first. They are put together
in one table, entry by entry: a later entry stands in place of an earlier one of the same name.

## YAML

Settings files are read by the edition of 2009, in which fewer words have a meaning: `null`, `true`
and `false` in small letters, `~`, and numbers of base eight, ten and sixteen. The words for numbers
that are not finite are taken for numbers and then refused. Only plain scalars are looked at; a tag
of YAML's own says what one should be, and any other tag that it is a text. A reference within its
own anchor, and a plain scalar that is not what its tag says, stand for nothing; such a key is as
good as none, so that its value is taken for the key.

No mapping may have the same key twice.
-/

namespace RunQuery.Settings

/-- Why the text of a file gives no table. -/
inductive FileFault where
  /-- It is not what it should be. -/
  | malformed
  /-- Something in it has a name that is neither a text nor an integer. -/
  | nameless
  deriving DecidableEq

/-! ## Integers -/

/-- The integers of 64 bits. -/
def isInt64 (n : Int) : Bool := -(Nat.pow 2 63 : Int) ≤ n && n < Nat.pow 2 63

/-- The integer of 64 bits that digits of a base after an optional sign write. -/
def integer? (base : Nat) (text : List Char) : Option Int :=
  let (negative, digits) := Decimal.splitSign text
  ((Yaml.Plain.digitsIn? base digits).map fun n ↦ if negative then -(n : Int) else n).filter isInt64

/-! ## JSON -/

/-- The table of a JSON text. Integers of more than 64 bits are floats. -/
def ofJsonText? (text : String) : Option Table :=
  match Json.parse text with
  | some (.object members) =>
    some (members.map fun (name, value) ↦ (name, value.map fun
      | .int n => if isInt64 n then .int n else .float (Double.ofInt n)
      | x => x))
  | _ => none

/-! ## YAML -/

def ofInteger (n : Int) : Content := if n < 0 then .negative n.natAbs else .natural n.natAbs

/-- The content of a float that is written in a settings file. -/
def float? (text : String) : Option Content :=
  -- of the words for such numbers this one alone is not known here, and is a text
  if (Yaml.Plain.nonFinite? text).isSome ∧ text ≠ ".NaN" then some .unreadable
  else (Decimal.read? text).map .float

/-- The integer with a mark in front that tells its base, or with a plus sign. -/
def markedInteger? : List Char → Option Int
  | '0' :: 'x' :: digits => integer? 16 digits
  | '0' :: 'o' :: digits => integer? 8 digits
  | '+' :: digits => integer? 10 digits
  | _ => none

/-- What a plain scalar of a settings file stands for. -/
def ofPlain (text : String) : Content :=
  match markedInteger? text.toList with
  | some n => ofInteger n
  | none =>
    if text = "~" ∨ text = "null" then .null
    else if text = "true" then .bool true
    else if text = "false" then .bool false
    else
      (((integer? 10 text.toList).map ofInteger).or (float? text)).getD (.text text)

/-- What a plain scalar with a tag of YAML's own stands for. -/
def ofTagged? (tag text : String) : Option Content :=
  if tag = "bool" then
    if text = "true" then some (.bool true) else if text = "false" then some (.bool false) else none
  else if tag = "int" then (integer? 10 text.toList).map ofInteger
  else if tag = "float" then float? text
  else if tag = "null" then if text = "~" ∨ text = "null" then some .null else none
  else some (.text text)

def ofScalar? (p : Yaml.Properties) (style : Yaml.Style) (text : String) : Option Content :=
  match style, p.tag with
  | .plain, none => some (ofPlain text)
  | .plain, some t =>
    if t.beginning = Yaml.Tag.core then ofTagged? t.suffix text else some (.text text)
  | _, _ => some (.text text)

/-- What anchored nodes stand for, by number. -/
abbrev Known := List (Nat × Option Content)

/-- Add what a node stands for, if it has an anchor. -/
def Known.add (known : Known) (p : Yaml.Properties) (content : Option Content) : Known :=
  (p.anchor.map fun number ↦ (number, content)).toList ++ known

/-- Are two names the same text or the same integer? -/
def sameName : Content → Content → Bool
  | .text s, .text t => s == t
  | .natural m, .natural n => m == n
  | .negative m, .negative n => m == n
  | _, _ => false

/-- A mapping that is being read. -/
structure OpenMapping where
  /-- The members so far, the last one first. -/
  members : List (Content × Content)
  /-- The key of the next value. -/
  key : Option Content

/-- Take what the next key or value stands for. A key that is there already is refused. -/
def OpenMapping.add? (m : OpenMapping) (content : Option Content) : Option OpenMapping :=
  match m.key with
  | none => some { m with key := content }
  | some key =>
    if m.members.any (sameName key ·.1) then none
    else some ⟨(key, content.getD .null) :: m.members, none⟩

mutual

/-- What a node of a settings file stands for, and what is known after it. -/
def ofNode? (known : Known) : Yaml.Node → Option (Option Content × Known)
  | .scalar p style text =>
    let content := ofScalar? p style text
    some (content, known.add p content)
  | .list p items => do
    let (items, known) ← ofItems? known items
    let content := some (Content.list items)
    return (content, known.add p content)
  | .mapping p members => do
    let (m, known) ← ofMembers? known ⟨[], none⟩ members
    let content := some (Content.mapping m.members.reverse)
    return (content, known.add p content)
  | .reference number => some (((known.find? (·.1 == number)).map (·.2)).join, known)

def ofItems? (known : Known) : List Yaml.Node → Option (List Content × Known)
  | [] => some ([], known)
  | item :: items => do
    let (content, known) ← ofNode? known item
    let (contents, known) ← ofItems? known items
    return (content.getD .null :: contents, known)

/-- What the members of a mapping stand for, after others. -/
def ofMembers? (known : Known) (m : OpenMapping) :
    List (Yaml.Node × Yaml.Node) → Option (OpenMapping × Known)
  | [] => some (m, known)
  | (key, value) :: members => do
    let (key, known) ← ofNode? known key
    let (value, known) ← ofNode? known value
    ofMembers? known (← (← m.add? key).add? value) members

end

/-- The text that names a setting. -/
def nameOf? : Content → Option String
  | .text s => some s
  | .natural n => some (Decimal.ofInt n)
  | .negative n => some (Decimal.ofInt (-n))
  | _ => none

mutual

def dataOf : Content → Except FileFault Json
  | .null => .ok .null
  | .bool b => .ok (.bool b)
  | .natural n => .ok (.number (.int n))
  | .negative n => .ok (.number (.int (-n)))
  | .float x => .ok (.number (.float x))
  | .text s => .ok (.string s)
  | .list items => (dataOfItems items).map .array
  | .mapping members => (dataOfMembers members).map .object
  | .unreadable => .error .malformed

def dataOfItems : List Content → Except FileFault (List Json)
  | [] => .ok []
  | item :: items => do return (← dataOf item) :: (← dataOfItems items)

def dataOfMembers : List (Content × Content) → Except FileFault (List (String × Json))
  | [] => .ok []
  | (key, value) :: members =>
    match nameOf? key with
    | none => .error .nameless
    | some name => do return (name, ← dataOf value) :: (← dataOfMembers members)

end

def ofYamlText (text : String) : Except FileFault Table :=
  match Yaml.Node.read? .y2009 text with
  | none => .error .malformed
  | some none => .ok []
  | some (some node) =>
    match ofNode? [] node with
    | none => .error .malformed
    | some (content, _) => do
      match (← dataOf (content.getD .null)).canonical with
      | .object members => return members
      | _ => .error .malformed

/-! ## Environment variables -/

/-- What the names of environment variables begin with, in lower case. -/
def variableMark : String := "runboard__"

/-- A name with a point in place of each pair of underlines. -/
def pointed : List Char → List Char
  | '_' :: '_' :: rest => '.' :: pointed rest
  | c :: rest => c :: pointed rest
  | [] => []

/-- What the text of an environment variable stands for: a truth value, a number or a text. -/
def ofVariableText (text : String) : Json :=
  if lowerName text = "true" then .bool true
  else if lowerName text = "false" then .bool false
  else
    match integer? 10 text.toList, Decimal.read? text with
    | some n, _ => .number (.int n)
    | none, some x => .number (.float x)
    | none, none => .string text

/-- The entry that an environment variable makes, where its name has the mark. Pairs of underlines
in the name separate the names of a path. -/
def ofVariable? (name text : String) : Option (String × Json) :=
  let name := (lowerName name).toList
  if variableMark.toList.isPrefixOf name then
    some (String.ofList (pointed (name.drop variableMark.length)), ofVariableText text)
  else none

end RunQuery.Settings
