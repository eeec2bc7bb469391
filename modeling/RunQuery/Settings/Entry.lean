import RunQuery.Settings.Source

/-!
# Settings taken as what they are asked for

Where a setting comes from decides how it was written: a truth value is a word in one file and a
text in an environment variable. So settings are taken as what they are asked for wherever that
makes sense: `on`, `yes` and 1 as true, digits as a count, a number as the text that shows it.
-/

namespace RunQuery.Settings

/-- A setting, to be taken as what it is asked for. -/
structure Entry where
  /-- The setting as it was written. -/
  data : Json

namespace Entry

def trueWords : List String := ["true", "on", "yes"]

def falseWords : List String := ["false", "off", "no"]

/-- The setting as a truth value. -/
def bool? (e : Entry) : Option Bool :=
  match e.data with
  | .bool b => some b
  | .number (.int n) => some (n != 0)
  | .number (.float x) => some (!Double.numEq x Double.zero)
  | .string s =>
    let word := lowerName s
    if word = "1" ∨ trueWords.contains word then some true
    else if word = "0" ∨ falseWords.contains word then some false
    else none
  | _ => none

/-- The count that digits after an optional plus sign write. -/
def countOfText? (text : List Char) : Option Nat :=
  let digits := match text with
    | '+' :: digits => digits
    | digits => digits
  (Yaml.Plain.digitsIn? 10 digits).filter (· < Json.Number.wordLimit)

def count? (e : Entry) : Option Nat :=
  match e.data with
  | .bool b => some (if b then 1 else 0)
  | .number (.int n) => if 0 ≤ n then some n.toNat else none
  | .number (.float x) => some (min x.roundToNat (Json.Number.wordLimit - 1))
  | .string s =>
    let word := lowerName s
    if trueWords.contains word then some 1
    else if falseWords.contains word then some 0
    else countOfText? s.toList
  | _ => none

def numberText : Json.Number → String
  | .int n => Decimal.ofInt n
  | .float x =>
    match NonFinite.ofDouble? x with
    | some .nan => "NaN"
    | some .infinity => "inf"
    | some .negInfinity => "-inf"
    | none => Value.numberText x

def text? (e : Entry) : Option String :=
  match e.data with
  | .bool b => some (if b then "true" else "false")
  | .number n => some (numberText n)
  | .string s => some s
  | _ => none

/-- The setting as the name of a case, in lower case. -/
def caseName? (e : Entry) : Option String :=
  match e.data with
  | .string s => some (lowerName s)
  | .object [(name, _)] => some (lowerName name)
  | _ => none

def items? (e : Entry) : Option (List Entry) :=
  (Json.items? e.data).map fun items ↦ items.map Entry.mk

def members? (e : Entry) : Option (List (String × Entry)) :=
  (Json.members? e.data).map fun members ↦ members.map fun (name, value) ↦ (name, ⟨value⟩)

def labelled (members : List (String × Entry)) : List (Document.Label × Entry) :=
  members.map fun (name, value) ↦ (.name name, value)

/-- The fields of a record. In a list of them others may follow. -/
def holder? (e : Entry) : Option (Document.Holder Entry) :=
  match e.members?, e.items? with
  | some members, _ => some (.members (labelled members))
  | none, some items => some (.items items true)
  | none, none => none

instance : Document Entry where
  bool? := bool?
  count? := count?
  double? e := e.data.number?.map Json.Number.toDouble
  text? := text?
  caseLabel? e := e.caseName?.map .name
  items? := items?
  members? := members?
  holder? := holder?
  isNull e := e.data.isNull
  json? e := some e.data
  value? e := some (Value.ofJson e.data)
  properText? e := e.data.string?
  properMembers? e := e.members?.map labelled

end Entry

end RunQuery.Settings
