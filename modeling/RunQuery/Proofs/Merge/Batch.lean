import Mathlib.Data.List.Induction
import RunQuery.Proofs.Merge.Store

/-!
# Merging a batch, payload by payload

What one payload does to the set of runs, and by induction what a whole batch does. The counters of
the merge never influence the set, and its index holds nothing that could not be searched for in the
set. So the set is followed by a fold of its own.

A payload is either *skipped*, or it puts the run that it delivers, or it delivers none. The
identity of a payload that delivers a run is the id of that run, which is what ties the decision to
skip to the place where the run would go.
-/

namespace RunQuery.Merge

/-- The last payload of an identity in a batch. -/
def lastPayload? (batch : List Json) (id : String) : Option Json :=
  batch.reverse.find? fun payload ↦ identity? payload == some id

/-- Is the payload one that the previous batch delivered already, and its run there? -/
def isReused (previous : List Json) (runs : List Run) (payload : Json) : Bool :=
  match identity? payload with
  | none => false
  | some id =>
    (runs.any fun run ↦ run.id == id) &&
      (lastPayload? previous id).any fun earlier ↦ samePayload earlier payload

/-- The set of runs after one payload. -/
def afterPayload (previous : List Json) (runs : List Run) (payload : Json) : List Run :=
  if isReused previous runs payload then runs
  else (Run.ofPayload? payload).elim runs fun run ↦ put run runs

/-- Does the payload deliver a run of this id? -/
def delivers (id : String) (payload : Json) : Bool := (Run.ofPayload? payload).any (·.id == id)

/-! ## The last payload of an identity -/

@[simp] theorem lastPayload?_append (batch more : List Json) (id : String) :
    lastPayload? (batch ++ more) id = (lastPayload? more id).or (lastPayload? batch id) := by
  rw [lastPayload?, List.reverse_append, List.find?_append, ← lastPayload?, ← lastPayload?]

@[simp] theorem lastPayload?_singleton (payload : Json) (id : String) :
    lastPayload? [payload] id = if identity? payload = some id then some payload else none := by
  by_cases h : identity? payload = some id
  · simp [lastPayload?, h]
  · simp [lastPayload?, h]

theorem mem_of_lastPayload? {batch : List Json} {id : String} {payload : Json}
    (h : lastPayload? batch id = some payload) : payload ∈ batch :=
  List.mem_reverse.mp (List.mem_of_find?_eq_some h)

theorem identity?_of_lastPayload? {batch : List Json} {id : String} {payload : Json}
    (h : lastPayload? batch id = some payload) : identity? payload = some id := by
  simpa using List.find?_some h

theorem get?_lastPayloads (batch : List Json) (id : String) :
    (lastPayloads batch).get? id = lastPayload? batch id := by
  induction batch using List.reverseRecOn with
  | nil => rfl
  | append_singleton batch payload ih =>
    rw [lastPayload?_append, lastPayload?_singleton, ← ih, lastPayloads, lastPayloads]
    cases hidentity : identity? payload with
    | none => simp [hidentity]
    | some id' =>
      by_cases hid : id' = id
      · simp [hidentity, hid]
      · simp [hidentity, hid, Ne.symm hid]

/-! ## The index -/

/-- The index knows the last place of every id, and no other. -/
def State.IsIndexed (s : State) : Prop :=
  ∀ id, s.places.get? id = lastPlace? (s.runs.map Run.id) id

theorem isIndexed_start (current : List Run) : (State.start current).IsIndexed := by
  intro id
  rw [State.start]
  dsimp only
  induction current using List.reverseRecOn with
  | nil => rfl
  | append_singleton current run ih =>
    have hplaces : placesOf (current ++ [run])
        = (placesOf current).insert run.id current.length := by
      simp [placesOf, List.zipIdx_append]
    simp [hplaces, ih]

variable {s : State}

theorem State.IsIndexed.isSome_get? (h : s.IsIndexed) (id : String) :
    (s.places.get? id).isSome = s.runs.any fun run ↦ run.id == id := by
  rw [h, Bool.eq_iff_iff, Option.isSome_iff_ne_none, ne_eq, lastPlace?_eq_none_iff, not_not]
  simp

theorem State.IsIndexed.skips_eq (h : s.IsIndexed) (previous : List Json) (payload : Json) :
    s.skips (lastPayloads previous) payload = isReused previous s.runs payload := by
  rw [State.skips, isReused]
  cases identity? payload with
  | none => rfl
  | some id =>
    dsimp only
    rw [h.isSome_get?, get?_lastPayloads]

theorem State.IsIndexed.put (h : s.IsIndexed) (run : Run) :
    (s.put run).runs = Merge.put run s.runs ∧ (s.put run).IsIndexed := by
  rw [State.put, Merge.put, h]
  cases hplace : lastPlace? (s.runs.map Run.id) run.id with
  | none =>
    refine ⟨rfl, fun id ↦ ?_⟩
    dsimp only
    rw [Dict.get?_insert, h]
    simp
  | some place =>
    refine ⟨rfl, fun id ↦ ?_⟩
    dsimp only
    rw [h, map_id_set hplace]

theorem State.IsIndexed.step (h : s.IsIndexed) (previous : List Json) (payload : Json) :
    (s.step (lastPayloads previous) payload).runs = afterPayload previous s.runs payload ∧
      (s.step (lastPayloads previous) payload).IsIndexed := by
  rw [State.step, afterPayload, h.skips_eq]
  by_cases hreused : isReused previous s.runs payload
  · rw [if_pos hreused, if_pos hreused]
    exact ⟨rfl, h⟩
  · rw [if_neg hreused, if_neg hreused]
    cases Run.ofPayload? payload with
    | none => exact ⟨rfl, h⟩
    | some run =>
      -- the counters are no part of the invariant
      have hcounted : State.IsIndexed { s with stats := { s.stats with
          normalized := s.stats.normalized + 1 } } := h
      exact hcounted.put run

theorem State.IsIndexed.foldl_step (h : s.IsIndexed) (previous batch : List Json) :
    (batch.foldl (State.step (lastPayloads previous)) s).runs
        = batch.foldl (afterPayload previous) s.runs ∧
      (batch.foldl (State.step (lastPayloads previous)) s).IsIndexed := by
  induction batch generalizing s with
  | nil => exact ⟨rfl, h⟩
  | cons payload batch ih =>
    obtain ⟨hruns, hnext⟩ := h.step previous payload
    rw [List.foldl_cons, List.foldl_cons, ← hruns]
    exact ih hnext

theorem fst_merge (current : List Run) (previous batch : List Json) :
    (merge current previous batch).1 = batch.foldl (afterPayload previous) current :=
  ((isIndexed_start current).foldl_step previous batch).1

theorem fst_merge_append (current : List Run) (previous before after : List Json) :
    (merge current previous (before ++ after)).1
      = after.foldl (afterPayload previous) (merge current previous before).1 := by
  rw [fst_merge, fst_merge, List.foldl_append]

theorem fst_merge_concat (current : List Run) (previous batch : List Json) (payload : Json) :
    (merge current previous (batch ++ [payload])).1
      = afterPayload previous (merge current previous batch).1 payload := by
  rw [fst_merge_append, List.foldl_cons, List.foldl_nil]

theorem fst_merge_merge_of_append (current : List Run) (previous before after : List Json) :
    (merge (merge current previous before).1 previous after).1
      = (merge current previous (before ++ after)).1 := by
  rw [fst_merge_append, fst_merge _ previous after]

/-! ## Identities -/

theorem identity?_of_ofPayload? {payload : Json} {run : Run}
    (h : Run.ofPayload? payload = some run) : identity? payload = some run.id := by
  rw [Run.ofPayload?] at h
  obtain ⟨name, hname, hrun⟩ := Option.bind_eq_some_iff.mp h
  rw [Option.pure_def, Option.some_inj] at hrun
  subst hrun
  rw [Run.textField?] at hname
  rw [identity?, hname]
  change _ = some ((Run.textField? payload "id").getD name)
  rw [← Run.textField?]
  cases Run.textField? payload "id" with
  | none => rfl
  | some id => rfl

@[simp] theorem delivers_iff {id : String} {payload : Json} :
    delivers id payload = true ↔ ∃ run, Run.ofPayload? payload = some run ∧ run.id = id := by
  simp [delivers, Option.any_eq_true]

@[simp] theorem isReused_nil (runs : List Run) (payload : Json) :
    isReused [] runs payload = false := by
  rw [isReused]
  cases identity? payload with
  | none => rfl
  | some id => simp [lastPayload?]

theorem id_mem_of_isReused {previous : List Json} {runs : List Run} {payload : Json} {run : Run}
    (hreused : isReused previous runs payload) (hrun : Run.ofPayload? payload = some run) :
    run.id ∈ runs.map Run.id := by
  rw [isReused, identity?_of_ofPayload? hrun] at hreused
  obtain ⟨other, hother, hid⟩ := List.any_eq_true.mp (Bool.and_eq_true_iff.mp hreused).1
  exact beq_iff_eq.mp hid ▸ List.mem_map_of_mem hother

/-- A payload is only skipped if it equals the last one of its identity in the previous batch. -/
theorem exists_lastPayload?_of_isReused {previous : List Json} {runs : List Run}
    {payload : Json} {run : Run} (hreused : isReused previous runs payload = true)
    (hrun : Run.ofPayload? payload = some run) :
    ∃ earlier, lastPayload? previous run.id = some earlier ∧
      samePayload earlier payload = true := by
  rw [isReused, identity?_of_ofPayload? hrun] at hreused
  exact (Option.any_eq_true _ _).mp (Bool.and_eq_true_iff.mp hreused).2

theorem isReused_of_mem {previous : List Json} {runs others : List Run} {payload : Json} {run : Run}
    (hrun : Run.ofPayload? payload = some run) (hmem : run.id ∈ runs.map Run.id)
    (h : isReused previous others payload = true) : isReused previous runs payload = true := by
  rw [isReused, identity?_of_ofPayload? hrun] at h ⊢
  obtain ⟨other, hother, hid⟩ := List.mem_map.mp hmem
  refine Bool.and_eq_true_iff.mpr ⟨?_, (Bool.and_eq_true_iff.mp h).2⟩
  exact List.any_eq_true.mpr ⟨other, hother, beq_iff_eq.mpr hid⟩

/-! ## One payload -/

/-- The outcomes of a payload: the set stays as it is, or the delivered run is put into it. -/
theorem afterPayload_cases (previous : List Json) (runs : List Run) (payload : Json) :
    afterPayload previous runs payload = runs ∨
      ∃ run, Run.ofPayload? payload = some run ∧
        afterPayload previous runs payload = put run runs := by
  rw [afterPayload]
  by_cases hreused : isReused previous runs payload
  · exact .inl (if_pos hreused)
  · rw [if_neg hreused]
    cases hrun : Run.ofPayload? payload with
    | none => exact .inl rfl
    | some run => exact .inr ⟨run, rfl, rfl⟩

theorem afterPayload_of_not_isReused {previous : List Json} {runs : List Run} {payload : Json}
    {run : Run} (hreused : isReused previous runs payload = false)
    (hrun : Run.ofPayload? payload = some run) :
    afterPayload previous runs payload = put run runs := by
  rw [afterPayload, hreused, hrun]
  rfl

theorem map_id_prefix_afterPayload (previous : List Json) (runs : List Run) (payload : Json) :
    runs.map Run.id <+: (afterPayload previous runs payload).map Run.id := by
  obtain h | ⟨run, -, h⟩ := afterPayload_cases previous runs payload
  · rw [h]
  · rw [h]
    exact map_id_prefix_put run runs

theorem nodup_afterPayload {runs : List Run} (hids : (runs.map Run.id).Nodup)
    (previous : List Json) (payload : Json) :
    ((afterPayload previous runs payload).map Run.id).Nodup := by
  obtain h | ⟨run, -, h⟩ := afterPayload_cases previous runs payload
  · rwa [h]
  · rw [h]
    exact nodup_put hids run

theorem runOf?_afterPayload_of_not_delivers {payload : Json} {id : String}
    (h : delivers id payload = false) (previous : List Json) (runs : List Run) :
    runOf? (afterPayload previous runs payload) id = runOf? runs id := by
  obtain hsame | ⟨run, hrun, hput⟩ := afterPayload_cases previous runs payload
  · rw [hsame]
  · have hid : id ≠ run.id := by
      rintro rfl
      rw [delivers_iff.mpr ⟨run, hrun, rfl⟩] at h
      contradiction
    rw [hput, runOf?_put, if_neg hid]

/-- Whether a payload is skipped has no influence on the ids. -/
theorem map_id_afterPayload (previous : List Json) (runs : List Run) (payload : Json) :
    (afterPayload previous runs payload).map Run.id
      = (afterPayload [] runs payload).map Run.id := by
  cases hrun : Run.ofPayload? payload with
  | none => simp [afterPayload, hrun]
  | some run =>
    rw [afterPayload_of_not_isReused (isReused_nil runs payload) hrun]
    cases hreused : isReused previous runs payload with
    | false => rw [afterPayload_of_not_isReused hreused hrun]
    | true =>
      rw [afterPayload, if_pos hreused, map_id_put, if_pos (id_mem_of_isReused hreused hrun)]

theorem map_id_afterPayload_congr {runs others : List Run}
    (h : runs.map Run.id = others.map Run.id) (previous : List Json) (payload : Json) :
    (afterPayload previous runs payload).map Run.id
      = (afterPayload [] others payload).map Run.id := by
  rw [map_id_afterPayload]
  cases hrun : Run.ofPayload? payload with
  | none => simp [afterPayload, hrun, h]
  | some run =>
    rw [afterPayload_of_not_isReused (isReused_nil runs payload) hrun,
      afterPayload_of_not_isReused (isReused_nil others payload) hrun, map_id_put, map_id_put, h]

/-! ## A batch -/

theorem map_id_prefix_merge (current : List Run) (previous batch : List Json) :
    current.map Run.id <+: (merge current previous batch).1.map Run.id := by
  induction batch using List.reverseRecOn with
  | nil => exact List.prefix_refl _
  | append_singleton batch payload ih =>
    rw [fst_merge_append]
    exact ih.trans (map_id_prefix_afterPayload previous _ payload)

theorem nodup_merge {current : List Run} (hids : (current.map Run.id).Nodup)
    (previous batch : List Json) : ((merge current previous batch).1.map Run.id).Nodup := by
  induction batch using List.reverseRecOn with
  | nil => exact hids
  | append_singleton batch payload ih =>
    rw [fst_merge_append]
    exact nodup_afterPayload ih previous payload

/-- The ids after a merge are the same whatever batch came before. -/
theorem map_id_merge (current : List Run) (previous batch : List Json) :
    (merge current previous batch).1.map Run.id = (merge current [] batch).1.map Run.id := by
  induction batch using List.reverseRecOn with
  | nil => rfl
  | append_singleton batch payload ih =>
    rw [fst_merge_append, fst_merge_append]
    exact map_id_afterPayload_congr ih previous payload

theorem runOf?_foldl_of_not_delivers {id : String} {batch : List Json}
    (h : ∀ payload ∈ batch, delivers id payload = false) (previous : List Json)
    (runs : List Run) : runOf? (batch.foldl (afterPayload previous) runs) id = runOf? runs id := by
  induction batch generalizing runs with
  | nil => rfl
  | cons payload batch ih =>
    obtain ⟨hpayload, hbatch⟩ := List.forall_mem_cons.mp h
    rw [List.foldl_cons, ih hbatch, runOf?_afterPayload_of_not_delivers hpayload]

end RunQuery.Merge
