import RunQuery.Run.Basic

/-!
# Sorting runs

A sort order names a key by its text, and a direction. Runs are compared by the values of that key;
runs without a value, or with a null one, come last in both directions; and runs that compare equal
keep their order.

The name `selected` is no field: it sorts by whether a run is among the selected ones. An order
without a name, or with one that names no key, leaves the runs as they are.
-/

namespace RunQuery

/-- A sort order. -/
structure SortOrder where
  /-- The text of the key, if there is one. -/
  name : Option String
  /-- From the least value to the greatest? -/
  ascending : Bool
  deriving DecidableEq, Inhabited

namespace SortOrder

/-- The order in which runs come. -/
def unsorted : SortOrder := ⟨none, false⟩

def selectedName : String := "selected"

/-- What a sort order looks at. -/
inductive Subject where
  /-- Whether the run is selected. -/
  | selected
  /-- The value of a field. -/
  | field (key : Key)
  deriving DecidableEq

/-- What a name asks to look at. -/
def Subject.ofName? (name : String) : Option Subject :=
  if name = selectedName then some selected else (Key.parse? name).map field

/-- What the order looks at, if anything. -/
def subject? (order : SortOrder) : Option Subject := order.name.bind Subject.ofName?

/-- The value by which a run is sorted, if it has one. -/
def Subject.value? (selected : List String) (run : Run) : Subject → Option Value
  | .selected => some (.bool (selected.contains run.id))
  | .field key => (run.value? key).filter (!·.isNull)

/-- May a run with the first value come before one with the second? -/
def precedes (ascending : Bool) : Option Value → Option Value → Bool
  | some v, some w => if ascending then (Value.order v w).isLE else (Value.order v w).isGE
  | none, some _ => false
  | _, none => true

/-- The runs in order; `selected` are the ids of the selected ones. -/
def sort (order : SortOrder) (selected : List String) (runs : List Run) : List Run :=
  match order.subject? with
  | none => runs
  | some subject =>
    -- `mergeSort` is stable
    ((runs.map fun run ↦ (subject.value? selected run, run)).mergeSort
      fun a b ↦ precedes order.ascending a.1 b.1).map Prod.snd

end SortOrder

end RunQuery
