import RunQuery.Json.Printer
import RunQuery.Unicode.Class

/-!
# Values of runs

The values that occur in the configuration and the metrics of a run and in the literals of a
filter: data trees whose numbers are doubles.

## Three readings of one value

* *As itself.* Two values are `identical` if they have the same shape, the same texts and
  numerically equal numbers.
* *As a number.* Numbers, and texts that write one, coerce to a number; nothing else does.
* *As a text.* `display` is the text by which values are matched, labelled and counted. Null is the
  empty text, a whole number has no point, list items are joined by commas, and an object is shown
  as JSON.
-/

namespace RunQuery

/-- A value of a run. -/
abbrev Value := Tree Double

namespace Value

/-! ## From and to JSON -/

/-- The value of JSON data: every number becomes its double. -/
def ofJson (json : Json) : Value := json.map Json.Number.toDouble

mutual

/-- The JSON form of a value. A number that is not finite becomes the word for it. -/
def toJson : Value → Json
  | .null => .null
  | .bool b => .bool b
  | .number x =>
    match NonFinite.ofDouble? x with
    | some n => .string n.word
    | none => .number (.float x)
  | .string s => .string s
  | .array items => .array (itemsToJson items)
  | .object members => .object (membersToJson members)

def itemsToJson : List Value → List Json
  | [] => []
  | item :: items => toJson item :: itemsToJson items

def membersToJson : List (String × Value) → List (String × Json)
  | [] => []
  | (name, value) :: members => (name, toJson value) :: membersToJson members

end

mutual

/-- The value in which the words for numbers that are not finite are those numbers again, at every
depth. Names of members stay as they are. -/
def restoreNonFinite : Value → Value
  | .null => .null
  | .bool b => .bool b
  | .number x => .number x
  | .string s =>
    match NonFinite.ofWord? s with
    | some n => .number n.toDouble
    | none => .string s
  | .array items => .array (restoreItems items)
  | .object members => .object (restoreMembers members)

def restoreItems : List Value → List Value
  | [] => []
  | item :: items => restoreNonFinite item :: restoreItems items

def restoreMembers : List (String × Value) → List (String × Value)
  | [] => []
  | (name, value) :: members => (name, restoreNonFinite value) :: restoreMembers members

end

/-! ## As a text -/

/-- Numbers are shown without exponent, and whole ones without a point. -/
def numberLayout : Decimal.Layout := ⟨none, none, false, .up⟩

/-- The text of a number. -/
def numberText : Double → String
  | .nan => NonFinite.nan.word
  | .signed negative r =>
    match NonFinite.ofDouble? (.signed negative r) with
    | some n => n.word
    | none => numberLayout.ofFinite negative r

mutual

/-- The text of a value. -/
def display : Value → String
  | .null => ""
  | .bool b => if b then "true" else "false"
  | .number x => numberText x
  | .string s => s
  | .array items => displayItems items
  | .object members => Json.compact (.object (membersToJson members))

/-- The texts of the items, with commas between them. -/
def displayItems : List Value → String
  | [] => ""
  | [item] => display item
  | item :: items => display item ++ "," ++ displayItems items

end

/-! ## As a number -/

/-- The number that a value is or writes. White space around a written number does not count. -/
def toNumber? : Value → Option Double
  | .number x => some x
  | .string s => Decimal.read? (Text.trim s)
  | _ => none

/-! ## Comparison -/

/-- Are the values of one shape, with the same texts and numerically equal numbers? -/
def identical (v w : Value) : Bool := Tree.equal Double.numEq v w

/-- The order of sorted values: numbers first, by the total order of the doubles, and then
everything else by its text. -/
def order : Value → Value → Ordering
  | .number x, .number y => Double.totalCompare x y
  | .number _, _ => .lt
  | _, .number _ => .gt
  | v, w => compare (display v) (display w)

/-! ## Typed literals -/

/-- Is the text digits, with an optional minus sign before them and optionally a point and more
digits after them? -/
def isPlainNumber (text : List Char) : Bool :=
  let unsigned := match text with
    | '-' :: rest => rest
    | other => other
  let allDigits (ds : List Char) := !ds.isEmpty && ds.all Decimal.isDigit
  match unsigned.dropWhile (· != '.') with
  | [] => allDigits unsigned
  | _ :: fraction => allDigits (unsigned.takeWhile (· != '.')) && allDigits fraction

/-- The value that somebody means who types a text: a truth value, null, a plain number, or the
text itself. A number that ends in a point is still being typed and is a text. -/
def ofTyped (text : String) : Value :=
  if text = "true" then .bool true
  else if text = "false" then .bool false
  else if text = "null" then .null
  else if isPlainNumber text.toList then
    match Decimal.read? text with
    | some x => .number x
    | none => .string text
  else .string text

/-- A value with a text read as a typed literal. -/
def typed : Value → Value
  | .string s => ofTyped s
  | v => v

end Value

end RunQuery
