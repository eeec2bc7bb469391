import RunQuery.Key

/-!
# Filter trees

A filter says which runs to take. Its leaves are conditions, each of which compares one field of a
run with a literal; its inner nodes ask for all or for any of their children. Filters arrive as
data from elsewhere, so a third kind of node keeps data that is no filter as it was: it can be
handed on unchanged, and no run passes it.

A child is addressed by the indices on the way to it from the root.
-/

namespace RunQuery

/-- How the children of a group are joined. -/
inductive Junction where
  /-- All of them have to hold. -/
  | and
  /-- At least one of them has to hold. -/
  | or
  deriving DecidableEq, Repr

namespace Junction

def word : Junction → String
  | and => "AND"
  | or => "OR"

def ofWord? (text : String) : Option Junction :=
  if text = "AND" then some and else if text = "OR" then some or else none

end Junction

/-- How a field is compared with a literal. -/
inductive Operator where
  /-- Equal. -/
  | eq
  /-- Not equal. -/
  | ne
  /-- Less. -/
  | lt
  /-- Less or equal. -/
  | le
  /-- Greater. -/
  | gt
  /-- Greater or equal. -/
  | ge
  /-- The literal is a pattern that occurs in the field. -/
  | pattern
  deriving DecidableEq, Repr

namespace Operator

def all : List Operator := [eq, ne, lt, le, gt, ge, pattern]

def sign : Operator → String
  | eq => "="
  | ne => "!="
  | lt => "<"
  | le => "<="
  | gt => ">"
  | ge => ">="
  | pattern => "=~"

def ofSign? (text : String) : Option Operator := all.find? (·.sign == text)

/-- Does the operator bound a field from below? -/
def isLowerBound : Operator → Bool
  | gt | ge => true
  | _ => false

/-- Does the operator bound a field from above? -/
def isUpperBound : Operator → Bool
  | lt | le => true
  | _ => false

/-- Does the operator order numbers? -/
def isOrdering (op : Operator) : Bool := op.isLowerBound || op.isUpperBound

end Operator

/-- The comparison of one field with a literal. -/
structure Condition where
  /-- The field. -/
  key : Key
  /-- The comparison. -/
  op : Operator
  /-- What the field is compared with. -/
  literal : Value

/-- A filter tree. -/
inductive Filter where
  /-- A group of filters. -/
  | group (op : Junction) (filters : List Filter)
  /-- A single comparison. -/
  | leaf (condition : Condition)
  /-- Data that is no filter. -/
  | invalid (data : Json)

namespace Filter

/-- All of the filters have to hold. -/
abbrev all (filters : List Filter) : Filter := group .and filters

/-- At least one of the filters has to hold. -/
abbrev any (filters : List Filter) : Filter := group .or filters

/-- A single comparison. -/
abbrev compare (key : Key) (op : Operator) (literal : Value) : Filter := leaf ⟨key, op, literal⟩

instance : Inhabited Filter := ⟨all []⟩

/-- The filter that a new view starts from: the runs without the tag `hidden`. -/
def visibleRuns : Filter := any [all [compare ⟨.tags, "hidden"⟩ .eq (.bool false)]]

/-! ## Leaves -/

mutual

/-- The number of conditions. -/
def size : Filter → Nat
  | group _ filters => sizeList filters
  | leaf _ => 1
  | invalid _ => 0

def sizeList : List Filter → Nat
  | [] => 0
  | filter :: filters => size filter + sizeList filters

end

mutual

/-- The conditions, from left to right. -/
@[simp] def leaves : Filter → List Condition
  | group _ filters => leavesList filters
  | leaf c => [c]
  | invalid _ => []

/-- The conditions in a list of filters, from left to right. -/
@[simp] def leavesList : List Filter → List Condition
  | [] => []
  | filter :: filters => leaves filter ++ leavesList filters

end

@[simp] theorem leavesList_append (filters others : List Filter) :
    leavesList (filters ++ others) = leavesList filters ++ leavesList others := by
  induction filters with
  | nil => rfl
  | cons filter filters ih => simp [ih]

@[simp] theorem leavesList_singleton (filter : Filter) : leavesList [filter] = filter.leaves :=
  List.append_nil _

mutual

@[simp] theorem length_leaves (filter : Filter) : filter.leaves.length = filter.size := by
  cases filter with
  | group op filters => rw [leaves, size, length_leavesList]
  | leaf c => rfl
  | invalid data => rfl

@[simp] theorem length_leavesList (filters : List Filter) :
    (leavesList filters).length = sizeList filters := by
  cases filters with
  | nil => rfl
  | cons filter filters =>
    rw [leavesList, List.length_append, length_leaves filter, length_leavesList filters, sizeList]

end

/-! ## Paths -/

/-- The tree with `node` as the new last child of the group at the end of the path; `none` if the
path leads nowhere or not to a group. -/
def pushAt? (node : Filter) : (path : List Nat) → Filter → Option Filter
  | [], group op filters => some (group op (filters ++ [node]))
  | i :: path, group op filters =>
    match filters[i]? with
    | none => none
    | some child => (pushAt? node path child).map fun child ↦ group op (filters.set i child)
  | _, _ => none

/-- A path that leads to no group. -/
structure PathError where
  /-- The whole of it, from the root. -/
  path : List Nat
  deriving DecidableEq

/-- The cause in words. -/
def PathError.message (e : PathError) : String :=
  "Invalid filter path: [" ++ String.intercalate ", " (e.path.map Nat.repr) ++ "]"

/-- The tree with `node` pushed to the group at the end of the path. -/
def push (node : Filter) (path : List Nat) (filter : Filter) : Except PathError Filter :=
  match pushAt? node path filter with
  | some pushed => .ok pushed
  | none => .error ⟨path⟩

end Filter

end RunQuery
