import Mathlib.Algebra.BigOperators.Group.List.Lemmas
import Mathlib.Algebra.GroupWithZero.Nat
import RunQuery.Proofs.Grouping.Partition
import RunQuery.Proofs.Text.ByteOrder

/-!
# The rows of a grouped view

Every run is in one group, that of its label, and there is one group for each label that some run
has. No group is empty, so none is lost where its first run is shown, and the sizes of the groups
add up to the number of the runs. All of this is said of any key and any runs, and so of the
subgroups as well, which are the groups of the runs of a group by a second key.
-/

namespace RunQuery

namespace Grouping

/-- Are these the groups of the runs by a key? -/
structure IsPartition (key : Key) (runs : List Run) (groups : List RunGroup) : Prop where
  /-- Labels increase strictly in the order of their bytes. -/
  increasing : groups.Pairwise fun g h ↦
    Text.Utf8.encode g.label.toList < Text.Utf8.encode h.label.toList
  /-- No group is empty. -/
  nonempty : ∀ g ∈ groups, g.runs ≠ []
  /-- The runs of a group are those that have its label, in the order in which they come. -/
  members : ∀ g ∈ groups, g.runs = members key runs g.label
  /-- A run is in exactly one group. -/
  once : ∀ run ∈ runs, ∃! g, g ∈ groups ∧ run ∈ g.runs

/-- Do the rows show the groups of the runs by a key, each with the counts of its members? -/
structure ShowsGroups (key : Key) (counts : List Run → List Nat) (runs : List Run)
    (rows : List Row) : Prop where
  /-- There is one row for each group, in the order of the labels. -/
  labels : rows.map (fun row ↦ label key row.run) = (partition key runs).map RunGroup.label
  /-- The run that is shown is the first one of its label. -/
  first : ∀ row ∈ rows, (runs.find? fun run ↦ label key run = label key row.run) = some row.run
  /-- A row counts the runs of its label. -/
  counts : ∀ row ∈ rows, row.counts = counts (members key runs (label key row.run))
  /-- The first counts add up to the number of the runs. -/
  total : (rows.map fun row ↦ row.counts.headD 0).sum = runs.length

/-- The size of a group, followed by the number of its subgroups where there is a second key: there
is one for each label that its runs have. -/
def groupCounts (grouping : Grouping) (members : List Run) : List Nat :=
  match grouping.subgroup with
  | none => [members.length]
  | some key => [members.length, (members.map (label key)).dedup.length]

/-- The size of a subgroup and of all that was divided. -/
def subgroupCounts (runs members : List Run) : List Nat := [members.length, runs.length]

variable {key : Key} {runs : List Run}

/-! ## Labels -/

theorem pairwise_partition (key : Key) (runs : List Run) :
    (partition key runs).Pairwise fun g h ↦ compare g.label h.label = .lt :=
  List.pairwise_map.mpr (runs.foldl (addMember key) Dict.empty).keysIncrease

theorem mem_labels_partition_iff {l : String} :
    l ∈ (partition key runs).map RunGroup.label ↔ l ∈ runs.map (label key) := by
  rw [List.mem_map, List.mem_map]
  constructor
  · rintro ⟨g, hg, rfl⟩
    obtain ⟨hne, hmembers⟩ := (mem_partition_iff key).mp hg
    obtain ⟨run, hrun⟩ := List.exists_mem_of_ne_nil _ hne
    refine ⟨run, ?_, label_eq_of_mem_partition key hg hrun⟩
    rw [hmembers] at hrun
    exact List.mem_of_mem_filter hrun
  · rintro ⟨run, hrun, rfl⟩
    obtain ⟨g, hg, hmem⟩ := exists_mem_partition key hrun
    exact ⟨g, hg, (label_eq_of_mem_partition key hg hmem).symm⟩

/-- The labels of the groups are those of the runs, each of them once. -/
theorem labels_partition_perm (key : Key) (runs : List Run) :
    ((partition key runs).map RunGroup.label).Perm (runs.map (label key)).dedup := by
  have hnodup : ((partition key runs).map RunGroup.label).Nodup := by
    rw [partition, List.map_map]
    exact (runs.foldl (addMember key) Dict.empty).keysIncrease.nodup
  refine (List.perm_ext_iff_of_nodup hnodup (List.nodup_dedup _)).mpr fun l ↦ ?_
  rw [mem_labels_partition_iff, List.mem_dedup]

@[simp] theorem length_partition (key : Key) (runs : List Run) :
    (partition key runs).length = (runs.map (label key)).dedup.length := by
  rw [← (labels_partition_perm key runs).length_eq, List.length_map]

theorem length_members (l : String) :
    (members key runs l).length = (runs.map (label key)).count l := by
  rw [members, List.count, List.countP_map, List.countP_eq_length_filter]
  congr 1

theorem sum_length_partition (key : Key) (runs : List Run) :
    ((partition key runs).map fun g ↦ g.runs.length).sum = runs.length := by
  have hsizes : (partition key runs).map (fun g ↦ g.runs.length)
      = ((partition key runs).map RunGroup.label).map fun l ↦ (runs.map (label key)).count l := by
    rw [List.map_map]
    refine List.map_congr_left fun g hg ↦ ?_
    rw [((mem_partition_iff key).mp hg).2, length_members]
    rfl
  rw [hsizes, ((labels_partition_perm key runs).map _).sum_eq,
    List.sum_map_count_dedup_eq_length, List.length_map]

/-! ## Groups -/

theorem isPartition_partition (key : Key) (runs : List Run) :
    IsPartition key runs (partition key runs) where
  increasing := (pairwise_partition key runs).imp Text.Utf8.compare_eq_lt_iff.mp
  nonempty := fun g hg ↦ ((mem_partition_iff key).mp hg).1
  members := fun g hg ↦ ((mem_partition_iff key).mp hg).2
  once := by
    intro run hrun
    obtain ⟨g, hg, hmem⟩ := exists_mem_partition key hrun
    refine ⟨g, ⟨hg, hmem⟩, ?_⟩
    rintro h ⟨hh, hmem'⟩
    have hlabel : h.label = g.label :=
      (label_eq_of_mem_partition key hh hmem').symm.trans (label_eq_of_mem_partition key hg hmem)
    have hruns : h.runs = g.runs :=
      (runs_eq_of_mem_partition key hh hmem').trans (runs_eq_of_mem_partition key hg hmem).symm
    cases h
    cases hlabel
    cases hruns
    rfl

/-! ## Rows -/

theorem find?_label_eq_head? {g : RunGroup} (hg : g ∈ partition key runs) :
    (runs.find? fun run ↦ label key run = g.label) = g.runs.head? := by
  rw [((mem_partition_iff key).mp hg).2, members, List.head?_filter]

theorem map_filterMap_firstRow? {α : Type} (counts : List Run → List Nat) (f : Row → α)
    (f' : RunGroup → α)
    (h : ∀ g : RunGroup, ∀ run, label key run = g.label → f ⟨run, counts g.runs⟩ = f' g) :
    ((partition key runs).filterMap fun g ↦ firstRow? g.runs (counts g.runs)).map f
      = (partition key runs).map f' := by
  rw [List.map_filterMap, ← List.filterMap_eq_map]
  refine List.filterMap_congr fun g hg ↦ ?_
  obtain ⟨run, rest, hcons⟩ := List.exists_cons_of_ne_nil ((mem_partition_iff key).mp hg).1
  have hlabel : label key run = g.label :=
    label_eq_of_mem_partition key hg (hcons ▸ List.mem_cons_self)
  have hrow : firstRow? g.runs (counts g.runs) = some ⟨run, counts g.runs⟩ := by
    rw [firstRow?, hcons, List.head?_cons, Option.map_some]
  rw [hrow, Option.map_some, h g run hlabel]
  rfl

/-- Where rows count the runs of a group first, they show the groups. -/
theorem showsGroups_filterMap (key : Key) (runs : List Run) (counts : List Run → List Nat)
    (hsize : ∀ members, (counts members).headD 0 = members.length) :
    ShowsGroups key counts runs
      ((partition key runs).filterMap fun g ↦ firstRow? g.runs (counts g.runs)) where
  labels := map_filterMap_firstRow? counts _ _ fun _ _ hlabel ↦ hlabel
  first := by
    intro row hrow
    obtain ⟨g, hg, hfirst, -⟩ := exists_group_of_mem_filterMap hrow
    rw [label_eq_of_mem_partition key hg (List.mem_of_head? hfirst), find?_label_eq_head? hg,
      hfirst]
  counts := by
    intro row hrow
    obtain ⟨g, hg, hfirst, hcounts⟩ := exists_group_of_mem_filterMap hrow
    rw [← runs_eq_of_mem_partition key hg (List.mem_of_head? hfirst), hcounts]
  total := by
    -- every group has a row, so no size is missing from the sum
    rw [map_filterMap_firstRow? counts _ (fun g ↦ g.runs.length) fun g _ _ ↦ hsize g.runs,
      sum_length_partition]

theorem showsGroups_groupRows (grouping : Grouping) (runs : List Run) :
    ShowsGroups grouping.group grouping.groupCounts runs (groupRows grouping runs) := by
  have hrows : groupRows grouping runs
      = (partition grouping.group runs).filterMap fun g ↦
          firstRow? g.runs (grouping.groupCounts g.runs) := by
    rw [groupRows, groups, List.filterMap_map]
    refine List.filterMap_congr fun g _ ↦ ?_
    cases hsub : grouping.subgroup with
    | none => simp [groupCounts, hsub]
    | some key => simp [groupCounts, hsub, length_partition]
  have hsize : ∀ members, (grouping.groupCounts members).headD 0 = members.length := by
    intro members
    rw [groupCounts]
    split <;> rfl
  rw [hrows]
  exact showsGroups_filterMap _ _ _ hsize

theorem showsGroups_subgroupRows (key : Key) (runs : List Run) :
    ShowsGroups key (subgroupCounts runs) runs (subgroupRows key runs) :=
  showsGroups_filterMap _ _ (subgroupCounts runs) fun _ ↦ rfl

/-- **Groups partition the runs, and the counts of the rows add up.** The groups by any key are a
partition of the runs, and so are the subgroups of each group of its runs. The rows of a view show
the first runs of the groups, with their sizes. -/
theorem isPartition_and_showsGroups (grouping : Grouping) (runs : List Run) :
    (∀ key, IsPartition key runs (partition key runs)) ∧
    (grouping.groups runs).map Prod.fst = partition grouping.group runs ∧
    (∀ g ∈ grouping.groups runs, ∀ key, grouping.subgroup = some key →
      IsPartition key g.1.runs g.2) ∧
    ShowsGroups grouping.group grouping.groupCounts runs (rows (some grouping) .group runs) ∧
    ∀ key, grouping.subgroup = some key →
      ShowsGroups key (subgroupCounts runs) runs (rows (some grouping) .subgroup runs) := by
  refine ⟨fun key ↦ isPartition_partition key runs, ?_, ?_, showsGroups_groupRows grouping runs, ?_⟩
  · rw [groups, List.map_map]
    exact List.map_id _
  · intro g hg key hkey
    obtain ⟨group, -, rfl⟩ := List.mem_map.mp hg
    rw [hkey]
    exact isPartition_partition key group.runs
  · intro key hkey
    rw [rows, hkey]
    exact showsGroups_subgroupRows key runs

/-- Runs under two keys, and the counts of their rows. -/
theorem isPartition_and_showsGroups_of_two_keys :
    let run (id opt : String) (lr : Nat) : Run :=
      { (default : Run) with
        id := id
        config := Dict.ofList [("opt", .string opt), ("lr", .number (Double.ofNat lr))] }
    let runs := [run "a" "sgd" 1, run "b" "adam" 1, run "c" "sgd" 2, run "d" "sgd" 1]
    let grouping : Grouping := ⟨⟨.config, "opt"⟩, some ⟨.config, "lr"⟩⟩
    ShowsGroups grouping.group grouping.groupCounts runs (rows (some grouping) .group runs) ∧
      (rows (some grouping) .group runs).map (fun row ↦ (row.run.id, row.counts))
        = [("b", [1, 1]), ("a", [3, 2])] ∧
      ShowsGroups ⟨.config, "lr"⟩ (subgroupCounts runs) runs (rows (some grouping) .subgroup runs) ∧
      (rows (some grouping) .subgroup runs).map (fun row ↦ (row.run.id, row.counts))
        = [("a", [3, 4]), ("c", [1, 4])] := by
  intro run runs grouping
  obtain ⟨-, -, -, hgroup, hsubgroup⟩ := isPartition_and_showsGroups grouping runs
  exact ⟨hgroup, by decide, hsubgroup _ rfl, by decide⟩

end Grouping

end RunQuery
