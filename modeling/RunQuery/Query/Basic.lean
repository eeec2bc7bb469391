import RunQuery.EngineConfig
import RunQuery.Selection
import RunQuery.Sorting

/-!
# Queries

What a client wants to see of a set of runs: which runs, in which order, in which groups and how
many rows of them, and which runs are highlighted. A grouped view is unfolded by a query that is
derived from the one it was answered by.
-/

namespace RunQuery

/-- A question about a set of runs. -/
structure Query where
  /-- The runs to show. -/
  filters : Filter
  /-- Of these, the runs to highlight. -/
  selections : Filter
  /-- The order. -/
  sort : SortOrder
  /-- The groups, if there are any. -/
  grouping : Option Grouping
  /-- What a row stands for. -/
  level : Level
  /-- The greatest number of rows, if there is one. -/
  page : Option Nat
  /-- Nothing is wanted. -/
  disabled : Bool
  /-- The set of runs has not changed since the request before. -/
  reuseBase : Bool
  /-- The columns. -/
  columns : ColumnChoice

namespace Query

/-- All runs, none of them highlighted. -/
def default : Query where
  filters := Filter.all []
  selections := Selection.nothing
  sort := SortOrder.unsorted
  grouping := none
  level := .run
  page := none
  disabled := false
  reuseBase := false
  columns := ColumnChoice.default

instance : Inhabited Query := ⟨default⟩

/-- The query that wants nothing. -/
def nothing : Query := { default with disabled := true }

/-- The runs that pass a filter. -/
def ofFilter (filter : Filter) : Query := { default with filters := filter }

def groupedBy (query : Query) (grouping : Grouping) : Query :=
  { query with grouping := some grouping, level := .group }

/-- The query that unfolds the group of a run: into its subgroups if there is a second key, and
else into its runs. There is none without a grouping. -/
def expandGroup? (query : Query) (config : EngineConfig) (run : Run) : Option Query :=
  query.grouping.map fun grouping ↦
    { query with
      filters := grouping.expandGroup query.filters run
      level := if grouping.subgroup.isSome then .subgroup else .run
      page := some (if grouping.subgroup.isSome then config.subgroupPageSize
        else config.runPageSize)
      reuseBase := true }

/-- The query that unfolds the subgroup of a run into its runs. There is none without a second
key. -/
def expandSubgroup? (query : Query) (config : EngineConfig) (run : Run) : Option Query :=
  match query.grouping with
  | none => none
  | some grouping =>
    if grouping.subgroup.isSome then
      some { query with
        filters := grouping.expandSubgroup query.filters run
        level := .run
        page := some config.runPageSize
        reuseBase := true }
    else none

end Query

end RunQuery
