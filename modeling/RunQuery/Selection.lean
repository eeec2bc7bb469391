import RunQuery.Filter.Comparison

/-!
# Range selections

Brushing over the axis of a chart selects the runs whose value lies in a range. A selection is an
ordinary filter, kept in the form `OR [AND [condition, …]]`, so that it can be evaluated, shown and
handed on like any other.

An end of a range is a bound. Setting a bound replaces the one with the same key and operator.
Where the effective ends of a key come to be equal, all bounds on the key are dropped: a brush
without width means no restriction.
-/

namespace RunQuery

/-- A range of numbers, both ends included; a side without an end is not bounded. -/
structure Bounds where
  /-- The lower end. -/
  low : Option Double
  /-- The upper end. -/
  high : Option Double
  deriving DecidableEq, Inhabited

namespace Bounds

/-- The range without ends. -/
def unbounded : Bounds := ⟨none, none⟩

/-- Is there no end on either side? -/
def isUnbounded (b : Bounds) : Bool := b.low.isNone && b.high.isNone

/-- Are there two ends that are equal? -/
def isDegenerate (b : Bounds) : Bool :=
  match b.low, b.high with
  | some low, some high => Double.numEq low high
  | _, _ => false

/-- Are two ends both missing, or equal as numbers? -/
def sameEnd : Option Double → Option Double → Bool
  | none, none => true
  | some x, some y => Double.numEq x y
  | _, _ => false

/-- Are two ranges equal on both sides? -/
def agrees (b c : Bounds) : Bool := sameEnd b.low c.low && sameEnd b.high c.high

/-- The range that also satisfies a condition: an ordering moves its end inwards, anything else and
a literal that is no number do nothing. -/
def tighten (b : Bounds) (op : Operator) (literal : Value) : Bounds :=
  match Value.toNumber? literal with
  | none => b
  | some x =>
    if op.isLowerBound then { b with low := some (b.low.elim x (Double.max · x)) }
    else if op.isUpperBound then { b with high := some (b.high.elim x (Double.min · x)) }
    else b

end Bounds

namespace Selection

def everything : Filter := Filter.any [Filter.all []]

def nothing : Filter := Filter.any []

/-- The effective range of a key: what all bounds on it leave, wherever they stand in the tree. -/
def bounds (selection : Filter) (key : Key) : Bounds :=
  selection.leaves.foldl (fun b c ↦ if c.key = key then b.tighten c.op c.literal else b)
    Bounds.unbounded

/-- Is the filter a condition on the key with an operator of the given kind? -/
def isBoundOn (key : Key) (kind : Operator → Bool) : Filter → Bool
  | .leaf c => c.key == key && kind c.op
  | _ => false

/-- The children of the group that is edited, and the branches beside it. Only an `AND` at the root
or in front of the branches of an `OR` at the root can be edited; any other filter becomes the
only child of a new one. -/
def split : Filter → List Filter × List Filter
  | .group .or [] => ([], [])
  | .group .or (.group .and inner :: rest) => (inner, rest)
  | .group .and filters => (filters, [])
  | other => ([other], [])

/-- Set the bound of the key with this operator, or remove it. -/
def addBound (selection : Filter) (key : Key) (op : Operator) (value : Option Double) : Filter :=
  let (group, rest) := split selection
  let kept := group.filter fun node ↦ !isBoundOn key (· == op) node
  let group := kept ++ (value.map fun x ↦ Filter.compare key op (.number x)).toList
  -- the range of this group alone, but with the conditions in its subgroups
  let group :=
    if (bounds (Filter.all group) key).isDegenerate then
      group.filter fun node ↦ !isBoundOn key Operator.isOrdering node
    else group
  Filter.any (Filter.all group :: rest)

/-- Set both ends of the range of a key. -/
def setBounds (selection : Filter) (key : Key) (range : Bounds) : Filter :=
  -- the new lower end meets the old upper one for a moment
  addBound (addBound selection key .ge range.low) key .le range.high

end Selection

/-! ## Ranges by key -/

/-- The ranges of several keys. -/
abbrev AxisRanges := Dict Key Bounds

namespace AxisRanges

/-- The ranges of the given keys in a selection, without those that are not bounded. -/
def ofSelection (selection : Filter) (keys : List Key) : AxisRanges :=
  keys.foldl
    (fun ranges key ↦
      let range := Selection.bounds selection key
      if range.isUnbounded then ranges else ranges.insert key range)
    Dict.empty

/-- The conditions that the ends of a range set. -/
def conditions (key : Key) (range : Bounds) : List Filter :=
  (range.low.map fun x ↦ Filter.compare key .ge (.number x)).toList ++
    (range.high.map fun x ↦ Filter.compare key .le (.number x)).toList

/-- The filter that asks for all ranges. -/
def toFilter (ranges : AxisRanges) : Filter :=
  Filter.all (ranges.toList.flatMap fun (key, range) ↦ conditions key range)

/-- Are the same keys bounded by equal ranges? -/
def agrees (ranges others : AxisRanges) : Bool :=
  ranges.keys == others.keys &&
    (ranges.toList.zip others.toList).all fun (e, f) ↦ e.2.agrees f.2

end AxisRanges

end RunQuery
