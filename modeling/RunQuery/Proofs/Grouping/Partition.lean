import Mathlib.Data.List.Induction
import RunQuery.Grouping
import RunQuery.Proofs.Dict.Entries

/-!
# The groups of a list of runs

The groups are made by a fold over the runs, which adds each run to the members of its label. What
stands under a label in the end are the runs that have it, in their order. So a run is in one group
only, that of its label, and no group is empty.
-/

namespace RunQuery

namespace Grouping

variable (key : Key)

def members (runs : List Run) (l : String) : List Run := runs.filter fun run ↦ label key run = l

theorem members_concat (runs : List Run) (run : Run) (l : String) :
    members key (runs ++ [run]) l
      = if label key run = l then members key runs l ++ [run] else members key runs l := by
  rw [members, List.filter_append]
  by_cases hl : label key run = l
  · simp [hl, members]
  · simp [hl, members]

theorem get?_addMember (groups : Dict String (List Run)) (run : Run) (l : String) :
    (addMember key groups run).get? l
      = if label key run = l then some ((groups.get? l).getD [] ++ [run]) else groups.get? l := by
  rw [addMember]
  by_cases hl : label key run = l
  · subst hl
    rw [Dict.get?_insert_self, if_pos rfl]
  · rw [Dict.get?_insert_of_ne (Ne.symm hl), if_neg hl]

/-- Under a label stand the runs that have it; a label that no run has is not there. -/
theorem get?_foldl_addMember (runs : List Run) (l : String) :
    (runs.foldl (addMember key) Dict.empty).get? l
      = if members key runs l = [] then none else some (members key runs l) := by
  induction runs using List.reverseRecOn with
  | nil => rfl
  | append_singleton runs run ih =>
    rw [List.foldl_append, List.foldl_cons, List.foldl_nil, get?_addMember, members_concat, ih]
    by_cases hl : label key run = l
    · -- the first run of a label founds its group
      rw [if_pos hl, if_pos hl]
      by_cases hnone : members key runs l = []
      · rw [if_pos hnone, hnone]
        rfl
      · rw [if_neg hnone, if_neg (by simp)]
        rfl
    · rw [if_neg hl, if_neg hl]

/-- **The groups** are the runs of each label that some run has. -/
theorem mem_partition_iff {runs : List Run} {g : RunGroup} :
    g ∈ partition key runs ↔ g.runs ≠ [] ∧ g.runs = members key runs g.label := by
  have hentry : g ∈ partition key runs
      ↔ (g.label, g.runs) ∈ (runs.foldl (addMember key) Dict.empty).toList := by
    rw [partition, List.mem_map]
    constructor
    · rintro ⟨⟨l, members⟩, hmem, rfl⟩
      exact hmem
    · intro hmem
      exact ⟨_, hmem, rfl⟩
  rw [hentry, Dict.mem_toList_iff, get?_foldl_addMember]
  by_cases hnone : members key runs g.label = []
  · rw [if_pos hnone, hnone]
    simp
  · rw [if_neg hnone, Option.some.injEq]
    constructor
    · rintro heq
      exact ⟨by rwa [← heq], heq.symm⟩
    · rintro ⟨-, heq⟩
      exact heq.symm

theorem exists_mem_partition {runs : List Run} {run : Run} (h : run ∈ runs) :
    ∃ g ∈ partition key runs, run ∈ g.runs := by
  have hmem : run ∈ members key runs (label key run) := List.mem_filter.mpr ⟨h, by simp⟩
  exact ⟨⟨label key run, members key runs (label key run)⟩,
    (mem_partition_iff key).mpr ⟨List.ne_nil_of_mem hmem, rfl⟩, hmem⟩

theorem label_eq_of_mem_partition {runs : List Run} {run : Run} {g : RunGroup}
    (hg : g ∈ partition key runs) (hrun : run ∈ g.runs) : label key run = g.label := by
  rw [((mem_partition_iff key).mp hg).2] at hrun
  simpa using (List.mem_filter.mp hrun).2

theorem runs_eq_of_mem_partition {runs : List Run} {run : Run} {g : RunGroup}
    (hg : g ∈ partition key runs) (hrun : run ∈ g.runs) :
    g.runs = members key runs (label key run) := by
  rw [label_eq_of_mem_partition key hg hrun]
  exact ((mem_partition_iff key).mp hg).2

/-! ## Rows -/

theorem exists_group_of_mem_filterMap {key : Key} {runs : List Run} {counts : RunGroup → List Nat}
    {row : Row} (h : row ∈ (partition key runs).filterMap fun g ↦ firstRow? g.runs (counts g)) :
    ∃ g ∈ partition key runs, g.runs.head? = some row.run ∧ row.counts = counts g := by
  obtain ⟨g, hg, hrow⟩ := List.mem_filterMap.mp h
  obtain ⟨first, hfirst, rfl⟩ := Option.map_eq_some_iff.mp hrow
  exact ⟨g, hg, hfirst, rfl⟩

theorem exists_group_of_mem_groupRows {grouping : Grouping} {runs : List Run} {row : Row}
    (h : row ∈ groupRows grouping runs) :
    ∃ g ∈ partition grouping.group runs, g.runs.head? = some row.run ∧
      row.counts.head? = some g.runs.length := by
  rw [groupRows, groups, List.filterMap_map] at h
  obtain ⟨g, hg, hfirst, hcounts⟩ := exists_group_of_mem_filterMap h
  refine ⟨g, hg, hfirst, ?_⟩
  rw [hcounts, List.head?_cons]

theorem exists_group_of_mem_subgroupRows {key : Key} {runs : List Run} {row : Row}
    (h : row ∈ subgroupRows key runs) :
    ∃ g ∈ partition key runs, g.runs.head? = some row.run ∧
      row.counts = [g.runs.length, runs.length] :=
  exists_group_of_mem_filterMap h

end Grouping

end RunQuery
