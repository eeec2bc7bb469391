import RunQuery.Filter.Basic
import RunQuery.Text.Percent

/-!
# Filters as data and as links

The JSON form of a filter and its form in a link. A group is an object with `op` and `filters`, or
`children` by an older name; a leaf is an object with `key`, `op` and `value`. Reading never fails:
data of any other shape is kept as an invalid node, and is written again as it was.

In a link stands the compact JSON text, percent-encoded.
-/

namespace RunQuery.Filter

/-! ## As data -/

mutual

/-- The JSON form of a filter, in canonical form if the data in it is. -/
def toJson : Filter → Json
  | group op filters => .object [("filters", .array (listToJson filters)), ("op", .string op.word)]
  | leaf c =>
    .object [
      ("key", .object [("name", .string c.key.name), ("section", .string c.key.inSection.name)]),
      ("op", .string c.op.sign),
      ("value", c.literal.toJson)]
  | invalid data => data

def listToJson : List Filter → List Json
  | [] => []
  | filter :: filters => toJson filter :: listToJson filters

end

/-- The condition that an object's members give, its operator known. -/
def conditionOfMembers? (op : Operator) (members : List (String × Json)) : Option Condition := do
  let key ← (lookupEntry "key" members).bind Key.read?
  return ⟨key, op, Value.ofJson ((lookupEntry "value" members).getD .null)⟩

/-- The filter that an object's members give. `lists` holds the filters in each member that is a
list, and `none` for a member that is not. -/
def ofMembers? (members : List (String × Json)) (lists : List (String × Option (List Filter))) :
    Option Filter := do
  let op ← (lookupEntry "op" members).bind Tree.string?
  match Junction.ofWord? op with
  | some junction =>
    -- the older name counts where the newer one is not there, and not where it is no list
    let filters ← (lookupEntry "filters" lists).or (lookupEntry "children" lists)
    return group junction (← filters)
  | none => return leaf (← conditionOfMembers? (← Operator.ofSign? op) members)

mutual

/-- The filter that canonical JSON data gives. -/
def ofJson : Json → Filter
  | .object members =>
    (ofMembers? members (listsOfMembers members)).getD (invalid (.object members))
  | .array items => invalid (.array items)
  | .null => invalid .null
  | .bool b => invalid (.bool b)
  | .number n => invalid (.number n)
  | .string s => invalid (.string s)

def listsOfMembers : List (String × Json) → List (String × Option (List Filter))
  | [] => []
  | (name, value) :: members => (name, listOfJson? value) :: listsOfMembers members

def listOfJson? : Json → Option (List Filter)
  | .array items => some (ofItems items)
  | _ => none

def ofItems : List Json → List Filter
  | [] => []
  | item :: items => ofJson item :: ofItems items

end

/-- The filter that a document gives, whatever data it holds. -/
def read? {δ : Type} [Document δ] (d : δ) : Option Filter := (Document.toJson? d).map ofJson

/-! ## As links -/

/-- Why a link holds no filter. -/
inductive LinkError where
  /-- Its bytes are no text. -/
  | encoding (fault : Text.Utf8.Fault)
  /-- Its text is not JSON. -/
  | json
  deriving DecidableEq

/-- The cause in words. -/
def LinkError.message : LinkError → String
  | .encoding fault => "Invalid filter: " ++ fault.message
  | .json => "JSON error"

/-- The form of a filter in a link. -/
def toLink (filter : Filter) : String := Text.Percent.encode (Json.compact filter.toJson)

/-- The filter in a link. -/
def ofLink (link : String) : Except LinkError Filter :=
  match Text.Percent.decode link with
  | .error fault => .error (.encoding fault)
  | .ok text =>
    match Json.parse text with
    | none => .error .json
    | some json => .ok (ofJson json)

end RunQuery.Filter
