import Mathlib.Data.List.Infix
import Mathlib.Data.List.Nodup
import RunQuery.Merge

/-!
# A set of runs as a store

A merge has only one way to change a set of runs: it *puts* a run in the place of the last one with
its id, or at the end where there is no such run. Here the place is searched for; that the index of
a merge knows it is a matter of its own. Two views say all that matters of putting a run.

* The ids in their order. Putting a run leaves them alone or adds its id at the end, so nothing is
  ever lost or moved.
* The last run of each id. Putting a run changes it for one id only.

Where the ids are distinct, the two views together determine the list, and so an equality of sets
of runs is proved by comparing views.

## Why the last run

The ids of a set that a client hands in may repeat. What stands under an id is then the last run of
it, and the lemmas on look-ups hold without any assumption on the ids.
-/

namespace RunQuery.Merge

/-- The last run of an id. -/
def runOf? (runs : List Run) (id : String) : Option Run :=
  runs.reverse.find? fun run ↦ run.id == id

/-- The place of the last occurrence of an id. -/
def lastPlace? : List String → String → Option Nat
  | [], _ => none
  | first :: ids, id =>
    match lastPlace? ids id with
    | some place => some (place + 1)
    | none => if first = id then some 0 else none

/-- Put a run in the place of the last one with its id, or at the end where there is none. -/
def put (run : Run) (runs : List Run) : List Run :=
  match lastPlace? (runs.map Run.id) run.id with
  | some place => runs.set place run
  | none => runs ++ [run]

/-! ## Look-ups -/

@[simp] theorem runOf?_append (runs others : List Run) (id : String) :
    runOf? (runs ++ others) id = (runOf? others id).or (runOf? runs id) := by
  rw [runOf?, List.reverse_append, List.find?_append, ← runOf?, ← runOf?]

@[simp] theorem runOf?_singleton (run : Run) (id : String) :
    runOf? [run] id = if id = run.id then some run else none := by
  by_cases h : id = run.id
  · simp [runOf?, h]
  · simp [runOf?, h, Ne.symm h]

theorem runOf?_cons (run : Run) (runs : List Run) (id : String) :
    runOf? (run :: runs) id = (runOf? runs id).or (if id = run.id then some run else none) := by
  rw [← List.singleton_append, runOf?_append, runOf?_singleton]

theorem runOf?_eq_none_iff {runs : List Run} {id : String} :
    runOf? runs id = none ↔ id ∉ runs.map Run.id := by
  simp [runOf?]

theorem exists_runOf?_of_mem {runs : List Run} {id : String} (h : id ∈ runs.map Run.id) :
    ∃ run, runOf? runs id = some run := by
  refine Option.ne_none_iff_exists'.mp fun hnone ↦ ?_
  exact runOf?_eq_none_iff.mp hnone h

theorem mem_of_runOf? {runs : List Run} {id : String} {run : Run} (h : runOf? runs id = some run) :
    run ∈ runs := List.mem_reverse.mp (List.mem_of_find?_eq_some h)

theorem id_of_runOf? {runs : List Run} {id : String} {run : Run} (h : runOf? runs id = some run) :
    run.id = id := by simpa using List.find?_some h

theorem runOf?_of_mem {runs : List Run} (hids : (runs.map Run.id).Nodup) {run : Run}
    (hrun : run ∈ runs) : runOf? runs run.id = some run := by
  cases hfound : runOf? runs run.id with
  | none => exact absurd (List.mem_map_of_mem hrun) (runOf?_eq_none_iff.mp hfound)
  | some other =>
    rw [List.inj_on_of_nodup_map hids (mem_of_runOf? hfound) hrun (id_of_runOf? hfound)]

theorem filterMap_runOf? {runs : List Run} (hids : (runs.map Run.id).Nodup) :
    (runs.map Run.id).filterMap (runOf? runs) = runs := by
  have hsome : ∀ run ∈ runs, (runOf? runs ∘ Run.id) run = some run := fun run hrun ↦
    runOf?_of_mem hids hrun
  rw [List.filterMap_map, List.filterMap_congr hsome, List.filterMap_some]

/-- Lists with the same distinct ids in which every look-up has the same answer are equal. -/
theorem eq_of_runOf? {runs others : List Run} (hids : (runs.map Run.id).Nodup)
    (hsame : runs.map Run.id = others.map Run.id)
    (h : ∀ id, runOf? runs id = runOf? others id) : runs = others := by
  calc runs
      = (runs.map Run.id).filterMap (runOf? runs) := (filterMap_runOf? hids).symm
    _ = (others.map Run.id).filterMap (runOf? others) := by
        rw [hsame, List.filterMap_congr fun id _ ↦ h id]
    _ = others := filterMap_runOf? (hsame ▸ hids)

/-! ## Places -/

theorem lastPlace?_eq_none_iff {ids : List String} {id : String} :
    lastPlace? ids id = none ↔ id ∉ ids := by
  induction ids with
  | nil => simp [lastPlace?]
  | cons first ids ih =>
    rw [lastPlace?, List.mem_cons, not_or, ← ih]
    cases hrest : lastPlace? ids id with
    | some place => simp
    | none =>
      by_cases h : first = id
      · simp [h]
      · simp [h, Ne.symm h]

/-- A place is one where the id stands, so it never lies outside of the list. -/
theorem getElem?_of_lastPlace? {ids : List String} {id : String} {place : Nat}
    (h : lastPlace? ids id = some place) : ids[place]? = some id := by
  induction ids generalizing place with
  | nil => cases h
  | cons first ids ih =>
    rw [lastPlace?] at h
    cases hrest : lastPlace? ids id with
    | some later =>
      rw [hrest] at h
      obtain rfl := Option.some.inj h
      rw [List.getElem?_cons_succ, ih hrest]
    | none =>
      rw [hrest] at h
      obtain ⟨hfirst, hplace⟩ := Option.ite_none_right_eq_some.mp h
      obtain rfl := Option.some.inj hplace
      rw [List.getElem?_cons_zero, hfirst]

/-- An id that is added at the end has its place there, and all others stay where they are. -/
@[simp] theorem lastPlace?_concat (ids : List String) (last id : String) :
    lastPlace? (ids ++ [last]) id = if id = last then some ids.length else lastPlace? ids id := by
  induction ids with
  | nil => simp [lastPlace?, eq_comm]
  | cons first ids ih =>
    rw [List.cons_append, lastPlace?, ih]
    by_cases h : id = last
    · rw [if_pos h, if_pos h, List.length_cons]
    · rw [if_neg h, if_neg h, lastPlace?]

theorem map_id_set {run : Run} {runs : List Run} {place : Nat}
    (h : lastPlace? (runs.map Run.id) run.id = some place) :
    (runs.set place run).map Run.id = runs.map Run.id := by
  obtain ⟨hplace, hid⟩ := List.getElem?_eq_some_iff.mp (getElem?_of_lastPlace? h)
  rw [List.map_set, ← hid, List.set_getElem_self]

theorem runOf?_set {run : Run} {runs : List Run} {place : Nat}
    (h : lastPlace? (runs.map Run.id) run.id = some place) (id : String) :
    runOf? (runs.set place run) id = if id = run.id then some run else runOf? runs id := by
  -- the place is searched for from the end, so the tail is asked before the first run
  induction runs generalizing place with
  | nil => cases h
  | cons first rest ih =>
    rw [List.map_cons, lastPlace?] at h
    cases hrest : lastPlace? (rest.map Run.id) run.id with
    | some later =>
      rw [hrest] at h
      obtain rfl := Option.some.inj h
      rw [List.set_cons_succ, runOf?_cons, ih hrest, runOf?_cons]
      by_cases hid : id = run.id
      · simp [hid]
      · simp [hid]
    | none =>
      rw [hrest] at h
      obtain ⟨hfirst, hplace⟩ := Option.ite_none_right_eq_some.mp h
      obtain rfl := Option.some.inj hplace
      have hnone : runOf? rest run.id = none :=
        runOf?_eq_none_iff.mpr (lastPlace?_eq_none_iff.mp hrest)
      rw [List.set_cons_zero, runOf?_cons, runOf?_cons, hfirst]
      by_cases hid : id = run.id
      · simp [hid, hnone]
      · simp [hid]

/-! ## Putting a run -/

@[simp] theorem map_id_put (run : Run) (runs : List Run) :
    (put run runs).map Run.id
      = if run.id ∈ runs.map Run.id then runs.map Run.id else runs.map Run.id ++ [run.id] := by
  rw [put]
  cases h : lastPlace? (runs.map Run.id) run.id with
  | none => rw [if_neg (lastPlace?_eq_none_iff.mp h), List.map_append, List.map_singleton]
  | some place =>
    rw [if_pos (List.mem_of_getElem? (getElem?_of_lastPlace? h)), map_id_set h]

@[simp] theorem mem_map_id_put (run : Run) (runs : List Run) :
    run.id ∈ (put run runs).map Run.id := by
  rw [map_id_put]
  split
  · assumption
  · simp

/-- A run put into a set is found, and no other look-up changes. -/
@[simp] theorem runOf?_put (run : Run) (runs : List Run) (id : String) :
    runOf? (put run runs) id = if id = run.id then some run else runOf? runs id := by
  rw [put]
  cases h : lastPlace? (runs.map Run.id) run.id with
  | none =>
    by_cases hid : id = run.id
    · simp [hid]
    · simp [hid]
  | some place => rw [runOf?_set h]

theorem map_id_prefix_put (run : Run) (runs : List Run) :
    runs.map Run.id <+: (put run runs).map Run.id := by
  rw [map_id_put]
  split
  · exact List.prefix_refl _
  · exact List.prefix_append _ _

theorem nodup_put {runs : List Run} (hids : (runs.map Run.id).Nodup) (run : Run) :
    ((put run runs).map Run.id).Nodup := by
  rw [map_id_put]
  by_cases h : run.id ∈ runs.map Run.id
  · rwa [if_pos h]
  · rw [if_neg h]
    exact List.concat_eq_append ▸ hids.concat h

end RunQuery.Merge
