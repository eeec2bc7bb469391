import Mathlib.Data.List.Basic
import RunQuery.Filter.Basic

/-!
# Pushes along paths

A path is followed from the root, at each index to the child there. Pushing a node changes the one
group that the path leads to, and the groups on the way only in that they hold it. Every other node
stays where it was, since the new child comes after the old ones: no path that led to a node leads
to another one afterwards. That is also why two pushes along different paths may come in either
order.

## What is compared

A tree is the nodes that the paths lead to. So the tree after a push is described by where each
path leads in it: a path on the way to the group, one that led to a node beside it, one into the
new child, and none besides these.
-/

namespace RunQuery.Filter

/-! ## Following paths -/

/-- The node that a path leads to; `none` if it leads nowhere. -/
def follow? (filter : Filter) : (path : List Nat) → Option Filter
  | [] => some filter
  | i :: path =>
    match filter with
    | group _ filters => filters[i]?.bind fun child ↦ child.follow? path
    | _ => none

/-- Does the path lead to a group? -/
def LeadsToGroup (filter : Filter) (path : List Nat) : Prop :=
  ∃ op children, filter.follow? path = some (group op children)

@[simp] theorem follow?_nil (filter : Filter) : filter.follow? [] = some filter := by
  rw [follow?]

@[simp] theorem follow?_group_cons (op : Junction) (filters : List Filter) (i : Nat)
    (path : List Nat) :
    (group op filters).follow? (i :: path) = filters[i]?.bind fun child ↦ child.follow? path := by
  rw [follow?]

theorem follow?_cons_eq_some_iff {filter node : Filter} {i : Nat} {path : List Nat} :
    filter.follow? (i :: path) = some node ↔
      ∃ op filters child, filter = group op filters ∧ filters[i]? = some child ∧
        child.follow? path = some node := by
  cases filter with
  | group op filters =>
    rw [follow?_group_cons, Option.bind_eq_some_iff]
    constructor
    · rintro ⟨child, hchild, hnode⟩
      exact ⟨op, filters, child, rfl, hchild, hnode⟩
    · rintro ⟨_, _, child, ⟨⟩, hchild, hnode⟩
      exact ⟨child, hchild, hnode⟩
  | leaf c => exact ⟨nofun, fun ⟨_, _, _, h, _⟩ ↦ nomatch h⟩
  | invalid data => exact ⟨nofun, fun ⟨_, _, _, h, _⟩ ↦ nomatch h⟩

@[simp] theorem follow?_append (filter : Filter) (path rest : List Nat) :
    filter.follow? (path ++ rest) = (filter.follow? path).bind fun node ↦ node.follow? rest := by
  induction path generalizing filter with
  | nil => simp
  | cons i path ih =>
    rcases filter with ⟨op, filters⟩ | c | data
    · simp [Option.bind_assoc, ih]
    · rfl
    · rfl

/-! ## What a push does -/

variable {filter pushed node : Filter} {path : List Nat}

theorem pushAt?_nil_eq_some_iff :
    pushAt? node [] filter = some pushed ↔
      ∃ op children, filter = group op children ∧ pushed = group op (children ++ [node]) := by
  rcases filter with ⟨op, children⟩ | c | data
  · rw [pushAt?, Option.some.injEq]
    constructor
    · rintro rfl
      exact ⟨op, children, rfl, rfl⟩
    · rintro ⟨_, _, ⟨⟩, rfl⟩
      rfl
  · exact ⟨nofun, fun ⟨_, _, h, _⟩ ↦ nomatch h⟩
  · exact ⟨nofun, fun ⟨_, _, h, _⟩ ↦ nomatch h⟩

theorem pushAt?_cons_eq_some_iff {i : Nat} :
    pushAt? node (i :: path) filter = some pushed ↔
      ∃ op filters child changed, filter = group op filters ∧ filters[i]? = some child ∧
        pushAt? node path child = some changed ∧ pushed = group op (filters.set i changed) := by
  rcases filter with ⟨op, filters⟩ | c | data
  · rw [pushAt?]
    constructor
    · intro h
      cases hchild : filters[i]? with
      | none => simp [hchild] at h
      | some child =>
        simp only [hchild, Option.map_eq_some_iff] at h
        obtain ⟨changed, hchanged, rfl⟩ := h
        exact ⟨op, filters, child, changed, rfl, hchild, hchanged, rfl⟩
    · rintro ⟨_, _, child, changed, ⟨⟩, hchild, hchanged, rfl⟩
      simp only [hchild, hchanged, Option.map_some]
  · exact ⟨nofun, fun ⟨_, _, _, _, h, _⟩ ↦ nomatch h⟩
  · exact ⟨nofun, fun ⟨_, _, _, _, h, _⟩ ↦ nomatch h⟩

/-- A node can be pushed exactly where the path leads to a group. -/
theorem exists_pushAt?_iff :
    (∃ pushed, pushAt? node path filter = some pushed) ↔ filter.LeadsToGroup path := by
  induction path generalizing filter with
  | nil =>
    simp only [LeadsToGroup, pushAt?_nil_eq_some_iff, follow?_nil, Option.some.injEq]
    constructor
    · rintro ⟨_, op, children, rfl, rfl⟩
      exact ⟨op, children, rfl⟩
    · rintro ⟨op, children, rfl⟩
      exact ⟨_, op, children, rfl, rfl⟩
  | cons i path ih =>
    simp only [LeadsToGroup, pushAt?_cons_eq_some_iff, follow?_cons_eq_some_iff]
    constructor
    · rintro ⟨_, op, filters, child, changed, rfl, hchild, hchanged, rfl⟩
      obtain ⟨op', children, hgroup⟩ := ih.mp ⟨changed, hchanged⟩
      exact ⟨op', children, op, filters, child, rfl, hchild, hgroup⟩
    · rintro ⟨op', children, op, filters, child, rfl, hchild, hgroup⟩
      obtain ⟨changed, hchanged⟩ := ih.mpr ⟨op', children, hgroup⟩
      exact ⟨_, op, filters, child, changed, rfl, hchild, hchanged, rfl⟩

theorem pushAt?_eq_none_iff : pushAt? node path filter = none ↔ ¬filter.LeadsToGroup path := by
  rw [Option.eq_none_iff_forall_ne_some, ← not_exists, exists_pushAt?_iff]

theorem follow?_of_pushAt?_append {start rest : List Nat}
    (h : pushAt? node (start ++ rest) filter = some pushed) :
    pushed.follow? start = (filter.follow? start).bind (pushAt? node rest) := by
  induction start generalizing filter pushed with
  | nil => simp [← h]
  | cons i start ih =>
    rw [List.cons_append, pushAt?_cons_eq_some_iff] at h
    obtain ⟨op, filters, child, changed, rfl, hchild, hchanged, rfl⟩ := h
    have hi : i < filters.length := (List.getElem?_eq_some_iff.mp hchild).1
    simp [List.getElem?_set_self hi, hchild, ih hchanged]

theorem exists_follow?_of_pushAt? (h : pushAt? node path filter = some pushed) :
    ∃ op children, filter.follow? path = some (group op children) ∧
      pushed.follow? path = some (group op (children ++ [node])) := by
  obtain ⟨op, children, hgroup⟩ := exists_pushAt?_iff.mp ⟨pushed, h⟩
  refine ⟨op, children, hgroup, ?_⟩
  rw [← List.append_nil path] at h
  rw [follow?_of_pushAt?_append h, hgroup, Option.bind_some, pushAt?]

/-- Off the way to the group and outside of the new child nothing has changed. -/
theorem follow?_of_pushAt?_elsewhere {op : Junction} {children : List Filter}
    (h : pushAt? node path filter = some pushed)
    (hgroup : filter.follow? path = some (group op children)) {place : List Nat}
    (hway : ¬place <+: path) (hnew : ¬path ++ [children.length] <+: place) :
    pushed.follow? place = filter.follow? place := by
  induction path generalizing filter pushed place with
  | nil =>
    rw [follow?_nil, Option.some.injEq] at hgroup
    subst hgroup
    obtain ⟨_, _, ⟨⟩, rfl⟩ := pushAt?_nil_eq_some_iff.mp h
    rcases place with _ | ⟨j, place⟩
    · exact absurd List.nil_prefix hway
    have hj : j ≠ children.length := by
      rintro rfl
      exact hnew ⟨place, rfl⟩
    rcases Nat.lt_or_gt_of_ne hj with hlt | hgt
    · simp [List.getElem?_append_left hlt]
    · -- behind the new child neither group has any
      rw [follow?_group_cons, follow?_group_cons, List.getElem?_eq_none (by simp; omega),
        List.getElem?_eq_none (by omega)]
  | cons i path ih =>
    obtain ⟨op', filters, child, changed, rfl, hchild, hchanged, rfl⟩ :=
      pushAt?_cons_eq_some_iff.mp h
    rcases place with _ | ⟨j, place⟩
    · exact absurd List.nil_prefix hway
    rw [follow?_group_cons, follow?_group_cons]
    by_cases hij : i = j
    · subst hij
      have hi : i < filters.length := (List.getElem?_eq_some_iff.mp hchild).1
      simp only [follow?_group_cons, hchild, Option.bind_some] at hgroup
      simp only [List.getElem?_set_self hi, hchild, Option.bind_some]
      apply ih hchanged hgroup
      · exact fun hprefix ↦ hway (List.cons_prefix_cons.mpr ⟨rfl, hprefix⟩)
      · exact fun hprefix ↦ hnew (List.cons_prefix_cons.mpr ⟨rfl, hprefix⟩)
    · rw [List.getElem?_set_ne hij]

/-! ## Conditions on either side of a path -/

/-- The conditions to the left of the node that a path leads to. -/
def leavesBefore (filter : Filter) : (path : List Nat) → List Condition
  | [] => []
  | i :: path =>
    match filter with
    | group _ filters =>
      leavesList (filters.take i) ++ filters[i]?.elim [] fun child ↦ child.leavesBefore path
    | _ => []

/-- The conditions to the right of the node that a path leads to. -/
def leavesAfter (filter : Filter) : (path : List Nat) → List Condition
  | [] => []
  | i :: path =>
    match filter with
    | group _ filters =>
      (filters[i]?.elim [] fun child ↦ child.leavesAfter path) ++ leavesList (filters.drop (i + 1))
    | _ => []

theorem leaves_eq_append (h : filter.follow? path = some node) :
    filter.leaves = filter.leavesBefore path ++ node.leaves ++ filter.leavesAfter path := by
  induction path generalizing filter with
  | nil =>
    obtain rfl := Option.some.inj ((follow?_nil filter).symm.trans h)
    rw [leavesBefore, leavesAfter, List.nil_append, List.append_nil]
  | cons i path ih =>
    obtain ⟨op, filters, child, rfl, hchild, hnode⟩ := follow?_cons_eq_some_iff.mp h
    obtain ⟨hi, hget⟩ := List.getElem?_eq_some_iff.mp hchild
    have hsplit : filters = filters.take i ++ [child] ++ filters.drop (i + 1) := by
      rw [← hget, List.append_assoc, List.singleton_append, ← List.drop_eq_getElem_cons hi,
        List.take_append_drop]
    rw [leaves, leavesBefore, leavesAfter, hchild]
    conv_lhs => rw [hsplit, leavesList_append, leavesList_append, leavesList_singleton, ih hnode]
    simp only [Option.elim_some, List.append_assoc]

theorem leavesBefore_and_leavesAfter_of_pushAt? (h : pushAt? node path filter = some pushed) :
    pushed.leavesBefore path = filter.leavesBefore path ∧
      pushed.leavesAfter path = filter.leavesAfter path := by
  induction path generalizing filter pushed with
  | nil => exact ⟨by rw [leavesBefore, leavesBefore], by rw [leavesAfter, leavesAfter]⟩
  | cons i path ih =>
    obtain ⟨op, filters, child, changed, rfl, hchild, hchanged, rfl⟩ :=
      pushAt?_cons_eq_some_iff.mp h
    have hi : i < filters.length := (List.getElem?_eq_some_iff.mp hchild).1
    have hset : (filters.set i changed)[i]? = some changed := List.getElem?_set_self hi
    obtain ⟨hbefore, hafter⟩ := ih hchanged
    constructor
    · rw [leavesBefore, leavesBefore, hset, hchild, Option.elim_some, Option.elim_some, hbefore,
        List.take_set_of_le (Nat.le_refl i)]
    · rw [leavesAfter, leavesAfter, hset, hchild, Option.elim_some, Option.elim_some, hafter,
        List.drop_set_of_lt (Nat.lt_succ_self i)]

/-! ## Two pushes -/

theorem exists_pushAt?_root {other changed : Filter} {i : Nat}
    (hroot : pushAt? node [] filter = some pushed)
    (hbelow : pushAt? other (i :: path) filter = some changed) :
    ∃ both, pushAt? other (i :: path) pushed = some both ∧
      pushAt? node [] changed = some both := by
  obtain ⟨op, children, child, inner, rfl, hchild, hinner, rfl⟩ :=
    pushAt?_cons_eq_some_iff.mp hbelow
  obtain ⟨_, _, ⟨⟩, rfl⟩ := pushAt?_nil_eq_some_iff.mp hroot
  have hi : i < children.length := (List.getElem?_eq_some_iff.mp hchild).1
  refine ⟨group op (children.set i inner ++ [node]), ?_, rfl⟩
  refine pushAt?_cons_eq_some_iff.mpr ⟨op, _, child, inner, rfl, ?_, hinner, ?_⟩
  · rw [List.getElem?_append_left hi, hchild]
  · rw [List.set_append_left _ _ hi]

/-- Pushes along different paths may come in either order. -/
theorem exists_pushAt?_pushAt? {other changed : Filter} {path' : List Nat} (hne : path ≠ path')
    (h : pushAt? node path filter = some pushed)
    (h' : pushAt? other path' filter = some changed) :
    ∃ both, pushAt? other path' pushed = some both ∧ pushAt? node path changed = some both := by
  -- the paths part at some index; above it both pushes go into the same child
  induction path generalizing filter pushed changed path' with
  | nil =>
    rcases path' with _ | ⟨j, path'⟩
    · exact absurd rfl hne
    · exact exists_pushAt?_root h h'
  | cons i path ih =>
    rcases path' with _ | ⟨j, path'⟩
    · obtain ⟨both, hboth, hboth'⟩ := exists_pushAt?_root h' h
      exact ⟨both, hboth', hboth⟩
    obtain ⟨op, filters, child, inner, rfl, hchild, hinner, rfl⟩ := pushAt?_cons_eq_some_iff.mp h
    obtain ⟨_, _, child', inner', ⟨⟩, hchild', hinner', rfl⟩ := pushAt?_cons_eq_some_iff.mp h'
    have hi : i < filters.length := (List.getElem?_eq_some_iff.mp hchild).1
    have hj : j < filters.length := (List.getElem?_eq_some_iff.mp hchild').1
    by_cases hij : i = j
    · subst hij
      obtain rfl := Option.some.inj (hchild.symm.trans hchild')
      -- the paths part further down
      have hrest : path ≠ path' := fun heq ↦ hne (congrArg (i :: ·) heq)
      obtain ⟨both, hboth, hboth'⟩ := ih hrest hinner hinner'
      refine ⟨group op (filters.set i both), ?_, ?_⟩
      · refine pushAt?_cons_eq_some_iff.mpr
          ⟨op, _, inner, both, rfl, List.getElem?_set_self hi, hboth, ?_⟩
        rw [List.set_set]
      · refine pushAt?_cons_eq_some_iff.mpr
          ⟨op, _, inner', both, rfl, List.getElem?_set_self hi, hboth', ?_⟩
        rw [List.set_set]
    · refine ⟨group op ((filters.set i inner).set j inner'), ?_, ?_⟩
      · refine pushAt?_cons_eq_some_iff.mpr ⟨op, _, child', inner', rfl, ?_, hinner', rfl⟩
        rw [List.getElem?_set_ne hij, hchild']
      · refine pushAt?_cons_eq_some_iff.mpr ⟨op, _, child, inner, rfl, ?_, hinner, ?_⟩
        · rw [List.getElem?_set_ne (Ne.symm hij), hchild]
        · rw [List.set_comm _ _ hij]

/-! ## Pushes that say why they fail -/

@[simp] theorem push_eq_ok_iff : push node path filter = .ok pushed ↔
    pushAt? node path filter = some pushed := by
  rw [push]
  cases pushAt? node path filter with
  | none => exact ⟨nofun, nofun⟩
  | some made => rw [Except.ok.injEq, Option.some.injEq]

theorem push_eq_error_iff {e : PathError} :
    push node path filter = .error e ↔ pushAt? node path filter = none ∧ e = ⟨path⟩ := by
  rw [push]
  cases pushAt? node path filter with
  | none => rw [Except.error.injEq, eq_comm, and_iff_right rfl]
  | some made => exact ⟨nofun, fun h ↦ nomatch h.1⟩

/-- What becomes of a filter when a node is pushed along a path to a group with these children. -/
structure IsPush (node : Filter) (path : List Nat) (op : Junction) (children : List Filter)
    (filter pushed : Filter) : Prop where
  /-- The path leads to the group. -/
  reached : filter.follow? path = some (group op children)
  /-- The node is its new last child. -/
  appended : pushed.follow? path = some (group op (children ++ [node]))
  /-- A node on the way to the group is the same but for the push into it. -/
  onWay : ∀ start rest step, path = start ++ rest → filter.follow? start = some step →
    ∃ extended, push node rest step = .ok extended ∧ pushed.follow? start = some extended
  /-- A node that is not on the way is the same. -/
  offWay : ∀ place other, ¬place <+: path → filter.follow? place = some other →
    pushed.follow? place = some other
  /-- The pushed node stands below the group, behind its children. -/
  inside : ∀ rest, pushed.follow? (path ++ children.length :: rest) = node.follow? rest
  /-- No other path leads to a node that was not there. -/
  nothingElse : ∀ place other, filter.follow? place = none → pushed.follow? place = some other →
    path ++ [children.length] <+: place
  /-- The conditions are counted together. -/
  size : pushed.size = filter.size + node.size
  /-- The conditions of the group stand between those on either side of it. -/
  leaves : filter.leaves
    = filter.leavesBefore path ++ leavesList children ++ filter.leavesAfter path
  /-- The conditions of the node come right after those of the group. -/
  leaves_pushed : pushed.leaves
    = filter.leavesBefore path ++ (leavesList children ++ node.leaves) ++ filter.leavesAfter path

theorem exists_isPush (h : pushAt? node path filter = some pushed) :
    ∃ op children, IsPush node path op children filter pushed := by
  obtain ⟨op, children, hreached, happended⟩ := exists_follow?_of_pushAt? h
  obtain ⟨hbefore, hafter⟩ := leavesBefore_and_leavesAfter_of_pushAt? h
  have hleaves := leaves_eq_append hreached
  have hpushed := leaves_eq_append happended
  simp only [leaves] at hleaves
  simp only [leaves, leavesList_append, leavesList_singleton, hbefore, hafter] at hpushed
  refine ⟨op, children, hreached, happended, ?_, ?_, ?_, ?_, ?_, hleaves, hpushed⟩
  · rintro start rest step rfl hstep
    have hextended := follow?_of_pushAt?_append h
    rw [hstep, Option.bind_some] at hextended
    -- the group is still at the end of the way, so the push into the node succeeds
    rw [follow?_append, hstep, Option.bind_some] at hreached
    obtain ⟨extended, hpush⟩ := exists_pushAt?_iff.mpr ⟨op, children, hreached⟩
    exact ⟨extended, push_eq_ok_iff.mpr hpush, hextended.trans hpush⟩
  · intro place other hway hother
    rw [follow?_of_pushAt?_elsewhere h hreached hway, hother]
    -- behind its children the group had none
    rintro ⟨rest, rfl⟩
    simp [hreached] at hother
  · intro rest
    simp [happended]
  · intro place other hnone hother
    by_contra hnew
    refine Option.some_ne_none other ?_
    by_cases hway : place <+: path
    · obtain ⟨rest, rfl⟩ := hway
      simp [hnone] at hreached
    · rw [← hother, follow?_of_pushAt?_elsewhere h hreached hway hnew, hnone]
  · rw [← length_leaves, ← length_leaves, ← length_leaves, hpushed, hleaves]
    simp only [List.length_append]
    omega

/-- **A push edits just the group that its path leads to.** It succeeds exactly if there is one, and
else names the whole path; when it succeeds, the group has the node as its new last child and
everything else is where it was. Two pushes along different paths may come in either order. -/
theorem push_isPush_and_comm (node : Filter) (path : List Nat) (filter : Filter) :
    ((∃ pushed, push node path filter = .ok pushed) ↔ filter.LeadsToGroup path) ∧
    (∀ e, push node path filter = .error e ↔ ¬filter.LeadsToGroup path ∧ e.path = path) ∧
    (∀ pushed, push node path filter = .ok pushed →
      ∃ op children, IsPush node path op children filter pushed) ∧
    ∀ other path', path ≠ path' → filter.LeadsToGroup path → filter.LeadsToGroup path' →
      ∃ both, (push node path filter).bind (push other path') = .ok both ∧
        (push other path' filter).bind (push node path) = .ok both := by
  refine ⟨?_, ?_, ?_, ?_⟩
  · simp only [push_eq_ok_iff, exists_pushAt?_iff]
  · intro e
    rw [push_eq_error_iff, pushAt?_eq_none_iff]
    rcases e with ⟨failed⟩
    rw [PathError.mk.injEq]
  · intro pushed h
    exact exists_isPush (push_eq_ok_iff.mp h)
  · intro other path' hne hgroup hgroup'
    obtain ⟨pushed, hpushed⟩ := exists_pushAt?_iff.mpr hgroup
    obtain ⟨changed, hchanged⟩ := exists_pushAt?_iff.mpr hgroup'
    obtain ⟨both, hboth, hboth'⟩ := exists_pushAt?_pushAt? hne hpushed hchanged
    rw [push_eq_ok_iff.mpr hpushed, push_eq_ok_iff.mpr hchanged]
    exact ⟨both, push_eq_ok_iff.mpr hboth, push_eq_ok_iff.mpr hboth'⟩

/-- A condition is pushed to an inner group and the whole filter to the root, in either order.
Beside the group stands data that is no filter, where nothing can be pushed. -/
theorem push_isPush_and_comm_of_nested :
    let filter := any [all [compare ⟨.tags, "hidden"⟩ .eq (.bool false)], invalid .null]
    let node := compare ⟨.run, "state"⟩ .eq (.string "running")
    let pushed := any [all [compare ⟨.tags, "hidden"⟩ .eq (.bool false), node], invalid .null]
    push node [0] filter = .ok pushed ∧ pushed.size = 2 ∧
      pushed.follow? [0, 1] = some node ∧ pushed.follow? [1] = some (invalid .null) ∧
      push node [1] filter = .error ⟨[1]⟩ ∧
      ∃ both, (push node [0] filter).bind (push filter []) = .ok both ∧
        (push filter [] filter).bind (push node [0]) = .ok both := by
  intro filter node pushed
  have hnone : ¬filter.LeadsToGroup [1] := fun ⟨_, _, h⟩ ↦ nomatch h
  have hpush : push node [0] filter = .ok pushed := rfl
  obtain ⟨-, -, hedits, hcomm⟩ := push_isPush_and_comm node [0] filter
  obtain ⟨op, children, hedit⟩ := hedits pushed hpush
  obtain ⟨rfl, rfl⟩ := group.inj (Option.some.inj hedit.reached)
  refine ⟨hpush, hedit.size, hedit.inside [], ?_, ?_, ?_⟩
  · exact hedit.offWay [1] _ (by decide) rfl
  · exact ((push_isPush_and_comm node [1] filter).2.1 ⟨[1]⟩).mpr ⟨hnone, rfl⟩
  · exact hcomm filter [] (List.cons_ne_nil _ _) ⟨_, _, rfl⟩ ⟨_, _, rfl⟩

end RunQuery.Filter
