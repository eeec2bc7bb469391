import RunQuery.Proofs.Merge.Batch

/-!
# Merging a batch again

A batch that is merged a second time changes nothing, although the second merge is not the first
one over again. Ids that were new are there by then, so payloads that were put the first time may
be skipped the second time; and a run that the batch delivers twice goes back to its earlier
version on the way.

For each id there are two possibilities. Either some payload for it was put in the second merge,
and the last one that was put is the same as in the first; or none was, and the run stands as the
first merge left it. This is an invariant along the batch, and at its end the two possibilities are
one.

## Repeated ids

The ids of the set may repeat. Then ids and look-ups do not determine the list, but a third view
completes them: the runs that are *hidden* behind a later one of their id. A merge never reaches
them.
-/

namespace RunQuery.Merge

/-! ## Hidden runs -/

/-- The runs that stand before a later one of their id, in their order. -/
def hidden : List Run → List Run
  | [] => []
  | run :: runs => if run.id ∈ runs.map Run.id then run :: hidden runs else hidden runs

theorem hidden_concat {run : Run} {runs : List Run} (h : run.id ∉ runs.map Run.id) :
    hidden (runs ++ [run]) = hidden runs := by
  induction runs with
  | nil => rfl
  | cons first runs ih =>
    rw [List.map_cons, List.mem_cons, not_or] at h
    have hids : first.id ∈ (runs ++ [run]).map Run.id ↔ first.id ∈ runs.map Run.id := by
      simp [Ne.symm h.1]
    rw [List.cons_append, hidden, hidden, ih h.2]
    simp only [hids]

theorem hidden_set {run : Run} {runs : List Run} {place : Nat}
    (h : lastPlace? (runs.map Run.id) run.id = some place) :
    hidden (runs.set place run) = hidden runs := by
  induction runs generalizing place with
  | nil => cases h
  | cons first rest ih =>
    rw [List.map_cons, lastPlace?] at h
    cases hrest : lastPlace? (rest.map Run.id) run.id with
    | some later =>
      rw [hrest] at h
      obtain rfl := Option.some.inj h
      rw [List.set_cons_succ, hidden, hidden, map_id_set hrest, ih hrest]
    | none =>
      rw [hrest] at h
      obtain ⟨hfirst, hplace⟩ := Option.ite_none_right_eq_some.mp h
      obtain rfl := Option.some.inj hplace
      rw [List.set_cons_zero, hidden, hidden, hfirst]
      have hlast : run.id ∉ rest.map Run.id := lastPlace?_eq_none_iff.mp hrest
      rw [if_neg hlast, if_neg hlast]

@[simp] theorem hidden_put (run : Run) (runs : List Run) : hidden (put run runs) = hidden runs := by
  rw [put]
  cases h : lastPlace? (runs.map Run.id) run.id with
  | none => exact hidden_concat (lastPlace?_eq_none_iff.mp h)
  | some place => exact hidden_set h

theorem runOf?_tail_eq {run other : Run} {runs others : List Run}
    (hids : runs.map Run.id = others.map Run.id)
    (h : ∀ id, runOf? (run :: runs) id = runOf? (other :: others) id) (id : String) :
    runOf? runs id = runOf? others id := by
  by_cases hmem : id ∈ runs.map Run.id
  · obtain ⟨found, hfound⟩ := exists_runOf?_of_mem hmem
    obtain ⟨found', hfound'⟩ := exists_runOf?_of_mem (hids ▸ hmem)
    have hid := h id
    rwa [runOf?_cons, runOf?_cons, hfound, hfound', Option.some_or, Option.some_or, ← hfound,
      ← hfound'] at hid
  · rw [runOf?_eq_none_iff.mpr hmem, runOf?_eq_none_iff.mpr (hids ▸ hmem)]

/-- A list is determined by its ids, its look-ups and its hidden runs. -/
theorem eq_of_views {runs others : List Run} (hids : runs.map Run.id = others.map Run.id)
    (hhidden : hidden runs = hidden others) (h : ∀ id, runOf? runs id = runOf? others id) :
    runs = others := by
  induction runs generalizing others with
  | nil => exact (List.map_eq_nil_iff.mp hids.symm).symm
  | cons run runs ih =>
    cases others with
    | nil => exact absurd hids (by simp)
    | cons other others =>
      obtain ⟨hid, hrest⟩ := List.cons.inj hids
      rw [hidden, hidden, ← hid, ← hrest] at hhidden
      by_cases hmem : run.id ∈ runs.map Run.id
      · rw [if_pos hmem, if_pos hmem] at hhidden
        obtain ⟨rfl, htail⟩ := List.cons.inj hhidden
        rw [ih hrest htail (runOf?_tail_eq hrest h)]
      · rw [if_neg hmem, if_neg hmem] at hhidden
        have hfirst := h run.id
        rw [runOf?_cons, runOf?_cons, runOf?_eq_none_iff.mpr hmem,
          runOf?_eq_none_iff.mpr (hrest ▸ hmem), ← hid, if_pos rfl, if_pos rfl] at hfirst
        obtain rfl := Option.some.inj hfirst
        rw [ih hrest hhidden (runOf?_tail_eq hrest h)]

@[simp] theorem hidden_merge (current : List Run) (previous batch : List Json) :
    hidden (merge current previous batch).1 = hidden current := by
  induction batch using List.reverseRecOn with
  | nil => rfl
  | append_singleton batch payload ih =>
    rw [fst_merge_concat, ← ih]
    obtain hsame | ⟨run, -, hput⟩ :=
      afterPayload_cases previous (merge current previous batch).1 payload
    · rw [hsame]
    · simp [hput]

/-! ## A set that has every run of the batch -/

/-- Every run that the batch delivers has its id in the set. -/
def HasIdsOf (batch : List Json) (runs : List Run) : Prop :=
  ∀ payload ∈ batch, ∀ run, Run.ofPayload? payload = some run → run.id ∈ runs.map Run.id

theorem hasIdsOf_merge (current : List Run) (previous batch : List Json) :
    HasIdsOf batch (merge current previous batch).1 := by
  induction batch using List.reverseRecOn with
  | nil => intro payload hpayload; cases hpayload
  | append_singleton batch last ih =>
    intro payload hpayload run hrun
    rw [fst_merge_concat]
    have hkeeps := map_id_prefix_afterPayload previous (merge current previous batch).1 last
    rcases List.mem_append.mp hpayload with hmem | hmem
    · exact hkeeps.subset (ih payload hmem run hrun)
    · obtain rfl := List.mem_singleton.mp hmem
      cases hreused : isReused previous (merge current previous batch).1 payload with
      | true => exact hkeeps.subset (id_mem_of_isReused hreused hrun)
      | false =>
        rw [afterPayload_of_not_isReused hreused hrun]
        exact mem_map_id_put run _

theorem map_id_merge_of_hasIdsOf {runs : List Run} {batch : List Json} (h : HasIdsOf batch runs)
    (previous : List Json) : (merge runs previous batch).1.map Run.id = runs.map Run.id := by
  induction batch using List.reverseRecOn with
  | nil => rfl
  | append_singleton batch payload ih =>
    have hids := ih fun earlier hearlier ↦ h earlier (List.mem_append_left _ hearlier)
    rw [fst_merge_concat]
    obtain hsame | ⟨run, hrun, hput⟩ :=
      afterPayload_cases previous (merge runs previous batch).1 payload
    · rw [hsame, hids]
    · have hmem : run.id ∈ runs.map Run.id := h payload (by simp) run hrun
      rw [hput, map_id_put, hids, if_pos hmem]

theorem runOf?_afterPayload_of_mem {previous : List Json} {runs : List Run} (others : List Run)
    {payload : Json} {run : Run} (hrun : Run.ofPayload? payload = some run)
    (hmem : run.id ∈ runs.map Run.id) :
    runOf? (afterPayload previous runs payload) run.id
        = runOf? (afterPayload previous others payload) run.id ∨
      afterPayload previous runs payload = runs ∧
        (afterPayload previous others payload = others ∨ run.id ∉ others.map Run.id) := by
  cases hhere : isReused previous runs payload with
  | false =>
    have hthere : isReused previous others payload = false := by
      refine Bool.eq_false_iff.mpr fun hreused ↦ ?_
      rw [isReused_of_mem hrun hmem hreused] at hhere
      contradiction
    left
    simp [afterPayload_of_not_isReused hhere hrun, afterPayload_of_not_isReused hthere hrun]
  | true =>
    -- a payload that is skipped here is skipped there as well, unless its run is missing there
    refine .inr ⟨by rw [afterPayload, if_pos hhere], ?_⟩
    by_cases hother : run.id ∈ others.map Run.id
    · have hthere : isReused previous others payload = true := isReused_of_mem hrun hother hhere
      exact .inl (by rw [afterPayload, if_pos hthere])
    · exact .inr hother

/-- **The invariant of a second merge.** Over a set that has every run of the batch, a merge leaves
under each id what was there, or else what a merge of the batch leaves there over any other set. -/
theorem runOf?_merge_of_hasIdsOf {runs : List Run} {batch : List Json} (h : HasIdsOf batch runs)
    (others : List Run) (previous : List Json) (id : String) :
    runOf? (merge runs previous batch).1 id = runOf? runs id ∨
      runOf? (merge runs previous batch).1 id = runOf? (merge others previous batch).1 id := by
  induction batch using List.reverseRecOn with
  | nil => exact .inl rfl
  | append_singleton batch payload ih =>
    have hbatch : HasIdsOf batch runs := fun earlier hearlier ↦
      h earlier (List.mem_append_left _ hearlier)
    have hbefore := ih hbatch
    rw [fst_merge_concat, fst_merge_concat]
    cases hdelivers : delivers id payload with
    | false =>
      rwa [runOf?_afterPayload_of_not_delivers hdelivers,
        runOf?_afterPayload_of_not_delivers hdelivers]
    | true =>
      obtain ⟨run, hrun, rfl⟩ := delivers_iff.mp hdelivers
      have hmem : run.id ∈ (merge runs previous batch).1.map Run.id := by
        rw [map_id_merge_of_hasIdsOf hbatch]
        exact h payload (by simp) run hrun
      obtain hsame | ⟨hskipped, hskippedToo | hmissing⟩ :=
        runOf?_afterPayload_of_mem (merge others previous batch).1 hrun hmem
      · exact .inr hsame
      · rwa [hskipped, hskippedToo]
      · -- what is here cannot come from there, so it has been here from the beginning
        rw [hskipped]
        refine .inl (hbefore.resolve_right ?_)
        rw [runOf?_eq_none_iff.mpr hmissing]
        exact fun hnone ↦ runOf?_eq_none_iff.mp hnone hmem

/-! ## The second merge -/

/-- **Merging a batch again changes nothing**, whatever the set and the batch before. -/
@[simp] theorem fst_merge_merge (current : List Run) (previous batch : List Json) :
    (merge (merge current previous batch).1 previous batch).1
      = (merge current previous batch).1 := by
  have hhas := hasIdsOf_merge current previous batch
  -- with every id there, the two possibilities of the invariant are one
  refine eq_of_views (map_id_merge_of_hasIdsOf hhas previous) (hidden_merge _ previous batch)
    fun id ↦ ?_
  obtain hkept | hput := runOf?_merge_of_hasIdsOf hhas current previous id
  · exact hkept
  · exact hput

end RunQuery.Merge
