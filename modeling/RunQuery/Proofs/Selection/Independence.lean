import RunQuery.Proofs.Filter.Compiled
import RunQuery.Proofs.Selection.Width

/-!
# Edits of different keys

Setting a bound on a key leaves the ranges of all other keys as they are, and bounds on two keys may
be set in either order. Any filter will do as the selection, in canonical form or not: conditions on
either key may stand at any depth, and beside the group that is edited.

An edit takes conditions only from among the children of that group, while a range is folded from
all conditions on its key, wherever they stand. So whether an edit drops the bounds on its key is
not decided by what it may take away alone. But conditions on other keys play no part in it, and
neither does the place of a condition among those on other keys.

## What the two orders have in common

They give different trees: a bound that is set later stands further to the right. What is the same
is, for each key, the list of conditions on it, from which its range is folded; and the children of
the group up to their order, of which a run has to pass all.
-/

namespace RunQuery

namespace Selection

variable {key key' : Key}

/-! ## The conditions on a key -/

/-- The conditions on a key in a list of filters, from left to right. -/
def conditionsOn (key : Key) (filters : List Filter) : List Condition :=
  (Filter.leavesList filters).filter fun c ↦ c.key = key

def IsOn (key : Key) (node : Filter) : Prop := ∃ c : Condition, node = .leaf c ∧ c.key = key

@[simp] theorem conditionsOn_append (key : Key) (filters others : List Filter) :
    conditionsOn key (filters ++ others) = conditionsOn key filters ++ conditionsOn key others := by
  simp [conditionsOn]

theorem bounds_eq_foldl_conditionsOn (selection : Filter) (key : Key) :
    bounds selection key = (conditionsOn key [selection]).foldl
      (fun b c ↦ b.tighten c.op c.literal) Bounds.unbounded := by
  simp only [conditionsOn, Filter.leavesList_singleton]
  exact rangeOf_eq_foldl_filter selection.leaves key

theorem bounds_all (group : List Filter) (key : Key) :
    bounds (Filter.all group) key = (conditionsOn key group).foldl
      (fun b c ↦ b.tighten c.op c.literal) Bounds.unbounded :=
  rangeOf_eq_foldl_filter (Filter.leavesList group) key

theorem conditionsOn_eq_nil (hne : key' ≠ key) {filters : List Filter}
    (h : ∀ node ∈ filters, IsOn key node) : conditionsOn key' filters = [] := by
  induction filters with
  | nil => rfl
  | cons node filters ih =>
    obtain ⟨⟨c, rfl, hkey⟩, hrest⟩ := List.forall_mem_cons.mp h
    rw [← List.singleton_append, conditionsOn_append, ih hrest, List.append_nil]
    have hother : ¬c.key = key' := fun hc ↦ hne (hc.symm.trans hkey)
    exact List.filter_cons_of_neg (by simpa using hother)

theorem conditionsOn_filter (hne : key' ≠ key) {keep : Filter → Bool}
    (h : ∀ node, keep node = false → IsOn key node) (filters : List Filter) :
    conditionsOn key' (filters.filter keep) = conditionsOn key' filters := by
  induction filters with
  | nil => rfl
  | cons node filters ih =>
    rw [← List.singleton_append, List.filter_append, conditionsOn_append, conditionsOn_append, ih]
    cases hkeep : keep node with
    | true => rw [List.filter_cons_of_pos hkeep, List.filter_nil]
    | false =>
      have hnode : ∀ other ∈ [node], IsOn key other := by
        intro other hother
        rw [List.mem_singleton.mp hother]
        exact h node hkeep
      rw [List.filter_cons_of_neg (by simp [hkeep]), List.filter_nil,
        conditionsOn_eq_nil hne hnode]
      rfl

/-! ## Changes on behalf of one key -/

/-- A change of the children of a group that concerns conditions on one key only: some of them are
left out, and others are added at the end. -/
structure Change (key : Key) where
  /-- Which children stay. -/
  keep : Filter → Bool
  /-- The children that are added. -/
  added : List Filter
  /-- Only conditions on the key are left out. -/
  isOn_of_keep : ∀ node, keep node = false → IsOn key node
  /-- Only conditions on the key are added. -/
  isOn_of_added : ∀ node ∈ added, IsOn key node

namespace Change

/-- The children after a change. -/
def apply (change : Change key) (group : List Filter) : List Filter :=
  group.filter change.keep ++ change.added

def andThen (change next : Change key) : Change key where
  keep node := change.keep node && next.keep node
  added := next.apply change.added
  isOn_of_keep node h := by
    rcases Bool.and_eq_false_iff.mp h with h | h
    · exact change.isOn_of_keep node h
    · exact next.isOn_of_keep node h
  isOn_of_added node h := by
    rcases List.mem_append.mp h with h | h
    · exact change.isOn_of_added node (List.mem_of_mem_filter h)
    · exact next.isOn_of_added node h

@[simp] theorem apply_andThen (change next : Change key) (group : List Filter) :
    (change.andThen next).apply group = next.apply (change.apply group) := by
  simp only [apply, andThen, List.filter_append, List.filter_filter, List.append_assoc,
    Bool.and_comm]

/-- A change on behalf of one key leaves the conditions on other keys as they are, and it does so
whatever change comes after it. -/
theorem conditionsOn_apply_apply (hne : key' ≠ key) (change : Change key) {key'' : Key}
    (next : Change key'') (group : List Filter) :
    conditionsOn key' (next.apply (change.apply group)) = conditionsOn key' (next.apply group) := by
  have hadded : conditionsOn key' (change.added.filter next.keep) = [] :=
    conditionsOn_eq_nil hne fun node hnode ↦
      change.isOn_of_added node (List.mem_of_mem_filter hnode)
  rw [apply, apply, apply, List.filter_append, conditionsOn_append, conditionsOn_append, hadded,
    List.append_nil, List.filter_comm, conditionsOn_filter hne change.isOn_of_keep,
    conditionsOn_append]

theorem conditionsOn_apply (hne : key' ≠ key) (change : Change key) (group : List Filter) :
    conditionsOn key' (change.apply group) = conditionsOn key' group := by
  rw [apply, conditionsOn_append, conditionsOn_filter hne change.isOn_of_keep,
    conditionsOn_eq_nil hne change.isOn_of_added, List.append_nil]

theorem filter_keep_added (hne : key' ≠ key) (change : Change key) (other : Change key') :
    other.added.filter change.keep = other.added := by
  refine List.filter_eq_self.mpr fun node hnode ↦ ?_
  obtain ⟨c, rfl, hc⟩ := other.isOn_of_added node hnode
  by_contra hkeep
  obtain ⟨d, hd, hkey⟩ := change.isOn_of_keep _ (Bool.eq_false_iff.mpr hkeep)
  obtain rfl := Filter.leaf.inj hd
  exact hne (hc.symm.trans hkey)

/-- Changes on behalf of different keys give the same children in either order, up to the order of
the children. -/
theorem apply_apply_perm (hne : key' ≠ key) (change : Change key) (other : Change key')
    (group : List Filter) :
    (other.apply (change.apply group)).Perm (change.apply (other.apply group)) := by
  rw [apply, apply, apply, apply, List.filter_append, List.filter_append,
    filter_keep_added hne change other, filter_keep_added hne.symm other change, List.filter_comm,
    List.append_assoc, List.append_assoc]
  exact List.Perm.append_left _ List.perm_append_comm

end Change

/-! ## An edit as a change -/

theorem isOn_of_isBoundOn {kind : Operator → Bool} {node : Filter}
    (h : isBoundOn key kind node = true) : IsOn key node := by
  cases node with
  | group op filters => cases h
  | invalid data => cases h
  | leaf c =>
    obtain ⟨hkey, -⟩ := Bool.and_eq_true_iff.mp h
    exact ⟨c, rfl, eq_of_beq hkey⟩

/-- Another bound in the place of the one with the same operator, or none. -/
def replacing (key : Key) (op : Operator) (value : Option Double) : Change key where
  keep node := !isBoundOn key (· == op) node
  added := (value.map fun x ↦ Filter.compare key op (.number x)).toList
  isOn_of_keep node h := isOn_of_isBoundOn (by simpa using h)
  isOn_of_added node h := by
    obtain ⟨x, -, rfl⟩ := Option.map_eq_some_iff.mp (Option.mem_toList.mp h)
    exact ⟨_, rfl, rfl⟩

/-- No bounds any more. -/
def clearing (key : Key) : Change key where
  keep node := !isBoundOn key Operator.isOrdering node
  added := []
  isOn_of_keep node h := isOn_of_isBoundOn (by simpa using h)
  isOn_of_added node h := nomatch h

@[simp] theorem clearing_apply (key : Key) (group : List Filter) :
    (clearing key).apply group
      = group.filter fun node ↦ !isBoundOn key Operator.isOrdering node := by
  rw [Change.apply]
  exact List.append_nil _

@[simp] theorem split_any_all (group rest : List Filter) :
    split (Filter.any (Filter.all group :: rest)) = (group, rest) := rfl

/-- The change that setting a bound makes of the children of the group that is edited. -/
def settingBound (group : List Filter) (key : Key) (op : Operator) (value : Option Double) :
    Change key :=
  if (bounds (Filter.all ((replacing key op value).apply group)) key).isDegenerate then
    (replacing key op value).andThen (clearing key)
  else replacing key op value

theorem addBound_eq (selection : Filter) (key : Key) (op : Operator) (value : Option Double) :
    addBound selection key op value
      = Filter.any (Filter.all ((settingBound (split selection).1 key op value).apply
          (split selection).1) :: (split selection).2) := by
  have hreplaced : ((split selection).1.filter fun node ↦ !isBoundOn key (· == op) node)
      ++ (value.map fun x ↦ Filter.compare key op (.number x)).toList
      = (replacing key op value).apply (split selection).1 := rfl
  rw [addBound]
  dsimp only
  rw [hreplaced, settingBound]
  split
  · simp
  · rfl

theorem settingBound_apply (hne : key' ≠ key) (change : Change key) (group : List Filter)
    (op : Operator) (value : Option Double) :
    settingBound (change.apply group) key' op value = settingBound group key' op value := by
  rw [settingBound, settingBound, bounds_all, bounds_all,
    Change.conditionsOn_apply_apply hne change]

/-- After edits of two keys the group has the changes of both, each of which the group as it was at
first decides. -/
theorem addBound_addBound_eq (hne : key' ≠ key) (selection : Filter) (op op' : Operator)
    (value value' : Option Double) :
    addBound (addBound selection key op value) key' op' value'
      = Filter.any (Filter.all ((settingBound (split selection).1 key' op' value').apply
          ((settingBound (split selection).1 key op value).apply (split selection).1))
            :: (split selection).2) := by
  rw [addBound_eq (addBound selection key op value), addBound_eq selection, split_any_all,
    settingBound_apply hne]

/-! ## The whole selection -/

theorem leavesList_split (selection : Filter) :
    Filter.leavesList (Filter.all (split selection).1 :: (split selection).2)
      = selection.leaves := by
  unfold split
  split
  · rfl
  · rfl
  · exact List.append_nil _
  · simp

theorem conditionsOn_any_all (key : Key) (group rest : List Filter) :
    conditionsOn key [Filter.any (Filter.all group :: rest)]
      = conditionsOn key group ++ conditionsOn key rest := by
  simp [conditionsOn]

theorem conditionsOn_split (key : Key) (selection : Filter) :
    conditionsOn key (split selection).1 ++ conditionsOn key (split selection).2
      = conditionsOn key [selection] := by
  rw [← conditionsOn_any_all, conditionsOn, conditionsOn, Filter.leavesList_singleton,
    Filter.leavesList_singleton, Filter.leaves, leavesList_split]

theorem bounds_addBound_of_ne (hne : key' ≠ key) (selection : Filter) (op : Operator)
    (value : Option Double) :
    bounds (addBound selection key op value) key' = bounds selection key' := by
  rw [bounds_eq_foldl_conditionsOn, bounds_eq_foldl_conditionsOn, addBound_eq,
    conditionsOn_any_all, Change.conditionsOn_apply hne, conditionsOn_split]

theorem bounds_addBound_addBound (hne : key ≠ key') (selection : Filter) (op op' : Operator)
    (value value' : Option Double) (k : Key) :
    bounds (addBound (addBound selection key op value) key' op' value') k
      = bounds (addBound (addBound selection key' op' value') key op value) k := by
  rw [bounds_eq_foldl_conditionsOn, bounds_eq_foldl_conditionsOn, addBound_addBound_eq hne.symm,
    addBound_addBound_eq hne, conditionsOn_any_all, conditionsOn_any_all]
  -- one of the two changes is on behalf of a key other than `k`, and can be left away
  by_cases hk : k = key
  · subst hk
    rw [Change.conditionsOn_apply hne, Change.conditionsOn_apply_apply hne]
  · rw [Change.conditionsOn_apply_apply hk, Change.conditionsOn_apply hk]

theorem passes_addBound_addBound (hne : key ≠ key') (selection : Filter) (op op' : Operator)
    (value value' : Option Double) (language : PatternLanguage) (run : Run) :
    (addBound (addBound selection key op value) key' op' value').passes language run
      = (addBound (addBound selection key' op' value') key op value).passes language run := by
  have hperm := Change.apply_apply_perm hne.symm (settingBound (split selection).1 key op value)
    (settingBound (split selection).1 key' op' value') (split selection).1
  rw [addBound_addBound_eq hne.symm, addBound_addBound_eq hne]
  simp only [Filter.passes_any, Filter.passes_all, List.any_cons, hperm.all_eq]

/-- **Edits of different keys do not meet.** In any filter as a selection, setting a bound on one
key leaves the range of every other key as it is. Of bounds on two keys, whichever is set first,
all ranges come out alike, and the same runs pass. -/
theorem bounds_addBound_and_addBound_comm (selection : Filter) (hne : key ≠ key')
    (op op' : Operator) (value value' : Option Double) :
    bounds (addBound selection key op value) key' = bounds selection key' ∧
      (∀ k, bounds (addBound (addBound selection key op value) key' op' value') k
        = bounds (addBound (addBound selection key' op' value') key op value) k) ∧
      ∀ language run,
        (CompiledFilter.compile language
            (addBound (addBound selection key op value) key' op' value')).passes run
          = (CompiledFilter.compile language
            (addBound (addBound selection key' op' value') key op value)).passes run := by
  refine ⟨bounds_addBound_of_ne hne.symm selection op value,
    bounds_addBound_addBound hne selection op op' value value', fun language run ↦ ?_⟩
  simp only [CompiledFilter.passes_compile]
  exact passes_addBound_addBound hne selection op op' value value' language run

/-- Both edits drop the bounds on their keys, since conditions further down leave no width. Those
conditions stay, and so does the one in the other branch. -/
theorem bounds_addBound_and_addBound_comm_of_nested :
    let rate : Key := ⟨.config, "lr"⟩
    let loss : Key := ⟨.summary, "loss"⟩
    let number (n : Nat) : Value := .number (Double.ofNat n)
    let selection := Filter.any [
      Filter.all [Filter.compare rate .le (number 1),
        Filter.any [Filter.compare loss .le (number 3), Filter.compare rate .gt (number 0)]],
      Filter.compare loss .gt (number 2)]
    let one := some (Double.ofNat 1)
    let three := some (Double.ofNat 3)
    rate ≠ loss ∧
      bounds (addBound selection rate .ge one) rate = ⟨some (Double.ofNat 0), none⟩ ∧
      bounds (addBound selection rate .ge one) loss = bounds selection loss ∧
      bounds selection loss = ⟨some (Double.ofNat 2), three⟩ ∧
      (∀ k, bounds (addBound (addBound selection rate .ge one) loss .ge three) k
        = bounds (addBound (addBound selection loss .ge three) rate .ge one) k) ∧
      ∀ run, (CompiledFilter.compile Pattern.test?
            (addBound (addBound selection rate .ge one) loss .ge three)).passes run
          = (CompiledFilter.compile Pattern.test?
            (addBound (addBound selection loss .ge three) rate .ge one)).passes run := by
  intro rate loss number selection one three
  have hne : rate ≠ loss := by decide
  obtain ⟨hother, hranges, hruns⟩ :=
    bounds_addBound_and_addBound_comm selection hne .ge .ge one three
  exact ⟨hne, by decide, hother, by decide, hranges, hruns Pattern.test?⟩

end Selection

end RunQuery
