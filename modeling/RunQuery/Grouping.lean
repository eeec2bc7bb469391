import RunQuery.Filter.Basic
import RunQuery.Run.Snapshot

/-!
# Grouping runs

Runs are grouped by the text of the value of a key, and the runs of a group may be divided further
by a second key. A grouped view is served in two phases.

* *Collapsed:* one row for each group, which shows the first run of the group and how many there
  are.
* *Expanded:* the runs of one group, which are asked for by a filter narrowed to it.

The counts of a row are the size of its group, followed by the number of subgroups where there is a
second key; for a row of a subgroup, the size of the subgroup and of all that was divided; and
nothing for the row of a run.

## The empty label

Values that are null, absent or an empty text share a label. No single comparison holds of just
those, so the filter for that group asks for null or for the empty text.
-/

namespace RunQuery

/-- The keys by which runs are grouped. -/
structure Grouping where
  /-- The key of the groups. -/
  group : Key
  /-- The key of the subgroups, if there are any. -/
  subgroup : Option Key
  deriving DecidableEq

/-- What a row of a grouped view stands for. -/
inductive Level where
  /-- A run. -/
  | run
  /-- A group. -/
  | group
  /-- A subgroup of the runs at hand. -/
  | subgroup
  deriving DecidableEq, Repr, Inhabited

namespace Level

def all : List Level := [run, group, subgroup]

def name : Level → String
  | run => "run"
  | group => "group"
  | subgroup => "subgroup"

def read? {δ : Type} [Document δ] (d : δ) : Option Level := Document.case? all name d

end Level

/-- The runs that share a label. -/
structure RunGroup where
  /-- The label. -/
  label : String
  /-- The runs, in their order. -/
  runs : List Run

/-- A row of a view. -/
structure Row where
  /-- The run that is shown. -/
  run : Run
  /-- What the row counts. -/
  counts : List Nat

namespace Row

def plain (run : Run) : Row := ⟨run, []⟩

/-- The row as JSON data: the members of the run, and the counts if there are any. -/
def toJson (row : Row) : Json :=
  .object <| row.run.toMembers ++
    if row.counts.isEmpty then []
    else [("groupCounts", .array (row.counts.map Json.ofCount))]

end Row

namespace Grouping

def label (key : Key) (run : Run) : String := ((run.value? key).map Value.display).getD ""

def addMember (key : Key) (groups : Dict String (List Run)) (run : Run) :
    Dict String (List Run) :=
  let l := label key run
  groups.insert l ((groups.get? l).getD [] ++ [run])

/-- The runs by label, groups in the order of their labels and members in that of the runs. -/
def partition (key : Key) (runs : List Run) : List RunGroup :=
  (runs.foldl (addMember key) Dict.empty).toList.map fun (l, members) ↦ ⟨l, members⟩

/-- The groups of the runs, each with its subgroups if there is a second key. -/
def groups (grouping : Grouping) (runs : List Run) : List (RunGroup × List RunGroup) :=
  (partition grouping.group runs).map fun g ↦
    (g, (grouping.subgroup.map fun key ↦ partition key g.runs).getD [])

/-- The row that shows the first run of some. -/
def firstRow? (runs : List Run) (counts : List Nat) : Option Row :=
  runs.head?.map fun run ↦ ⟨run, counts⟩

/-- One row for each group. -/
def groupRows (grouping : Grouping) (runs : List Run) : List Row :=
  (grouping.groups runs).filterMap fun (g, subgroups) ↦
    firstRow? g.runs
      (g.runs.length :: if grouping.subgroup.isSome then [subgroups.length] else [])

def subgroupRows (key : Key) (runs : List Run) : List Row :=
  (partition key runs).filterMap fun g ↦ firstRow? g.runs [g.runs.length, runs.length]

/-- The rows of a view. Without a grouping every row is a run, and without a second key subgroups
are groups. -/
def rows (grouping : Option Grouping) (level : Level) (runs : List Run) : List Row :=
  match grouping, level with
  | none, _ => runs.map Row.plain
  | some _, .run => runs.map Row.plain
  | some grouping, .group => grouping.groupRows runs
  | some grouping, .subgroup =>
    match grouping.subgroup with
    | none => grouping.groupRows runs
    | some key => subgroupRows key runs

/-! ## Expansion -/

/-- The filter for the runs that share the label of one. -/
def sameLabel (key : Key) (run : Run) : Filter :=
  -- the texts of null and of an absent value are empty too
  match (run.value? key).filter fun v ↦ !(Value.display v).isEmpty with
  | some value => Filter.compare key .eq value
  | none => Filter.any [Filter.compare key .eq .null, Filter.compare key .eq (.string "")]

/-- The filter narrowed to the group of a run. -/
def expandGroup (grouping : Grouping) (filter : Filter) (run : Run) : Filter :=
  Filter.all [filter, sameLabel grouping.group run]

/-- The filter narrowed to the subgroup of a run, or to its group where there is no second key. -/
def expandSubgroup (grouping : Grouping) (filter : Filter) (run : Run) : Filter :=
  Filter.all <| [filter, sameLabel grouping.group run] ++
    (grouping.subgroup.map fun key ↦ sameLabel key run).toList

/-! ## As data -/

def toJson (grouping : Grouping) : Json :=
  .object <| ("group", grouping.group.toJson) ::
    (grouping.subgroup.map fun key ↦ ("subgroup", key.toJson)).toList

def read? {δ : Type} [Document δ] (d : δ) : Option Grouping :=
  match Document.fields? [("group", .required), ("subgroup", .optional)] d with
  | some [some group, subgroup] => do
    return ⟨← Key.read? group, ← Document.orAbsent? Key.read? subgroup⟩
  | _ => none

end Grouping

end RunQuery
