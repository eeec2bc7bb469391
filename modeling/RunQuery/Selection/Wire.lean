import RunQuery.Selection

/-!
# Ranges as data

A range is an object with `low` and `high`, null on a side without an end. Ranges by key are an
object with the texts of the keys as names. An end that is not finite has no form in JSON and is
written as null.
-/

namespace RunQuery

namespace Bounds

def endToJson : Option Double → Json
  | none => .null
  | some x => if x.isFinite then .number (.float x) else .null

def toJson (b : Bounds) : Json :=
  .object [("low", endToJson b.low), ("high", endToJson b.high)]

/-- The range that a document gives. -/
def read? {δ : Type} [Document δ] (d : δ) : Option Bounds :=
  match Document.fields? [("low", .nullable), ("high", .nullable)] d with
  | some [low, high] => do
    return ⟨← Document.orAbsent? Document.double? low, ← Document.orAbsent? Document.double? high⟩
  | _ => none

end Bounds

namespace AxisRanges

def byText (ranges : AxisRanges) : Dict String Bounds :=
  Dict.ofList (ranges.toList.map fun (key, range) ↦ (key.text, range))

def toJson (ranges : AxisRanges) : Json :=
  .object ((byText ranges).toList.map fun (text, range) ↦ (text, range.toJson))

/-- The ranges whose keys have the given texts; `none` if one of them names no key. -/
def ofTexts? (ranges : Dict String Bounds) : Option AxisRanges :=
  (ranges.toList.mapM fun e ↦ (Key.parse? e.1).map fun key ↦ (key, e.2)).map Dict.ofList

/-- The ranges that a document gives. -/
def read? {δ : Type} [Document δ] (d : δ) : Option AxisRanges := do
  let members ← Document.members? d
  let ranges ← members.mapM fun (text, v) ↦ (Bounds.read? v).map fun range ↦ (text, range)
  ofTexts? (Dict.ofList ranges)

end AxisRanges

end RunQuery
