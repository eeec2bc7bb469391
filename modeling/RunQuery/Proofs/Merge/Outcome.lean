import RunQuery.Proofs.Merge.Batch

/-!
# The exact result of a merge

Every payload of a batch comes at a moment of its own, and finds the set of runs that the payloads
before it have led to. It is *reused* if its run is in that set and the previous batch ended with
an equal payload for it. It is *kept* if it is not reused and delivers a run. All others are
dropped.

The kept payloads say all about the result. The ids are the old ones, followed by the new ones in
the order in which they were kept first; under each id stands the run of the payload kept last for
it, or the old run where none was kept; and the counters count the three sorts of payloads.

## Moments

Whether a payload is reused depends on what the payloads before it did, so the kept payloads are
no filter of the batch alone. They are a filter of the batch with its moments, and these are made
from merges of the parts of the batch. What is appended to a batch changes none of its moments,
and that is what the inductions below rest on.
-/

namespace RunQuery.Merge

/-- The payloads of a batch in their order, each after the set of runs that it finds. -/
def moments (current : List Run) (previous batch : List Json) : List (List Run × Json) :=
  batch.zipIdx.map fun e ↦ ((merge current previous (batch.take e.2)).1, e.1)

/-- The payloads of a batch that fulfil a condition at their moment. -/
def payloadsWhen (condition : List Run → Json → Bool) (current : List Run)
    (previous batch : List Json) : List Json :=
  ((moments current previous batch).filter fun m ↦ condition m.1 m.2).map Prod.snd

/-- Is the payload one that delivers a run and is not skipped? -/
def isKept (previous : List Json) (runs : List Run) (payload : Json) : Bool :=
  !isReused previous runs payload && (Run.ofPayload? payload).isSome

/-- The payloads of a batch that are skipped. -/
def reusedPayloads (current : List Run) (previous batch : List Json) : List Json :=
  payloadsWhen (isReused previous) current previous batch

/-- The payloads of a batch whose runs are put into the set. -/
def keptPayloads (current : List Run) (previous batch : List Json) : List Json :=
  payloadsWhen (isKept previous) current previous batch

/-- The ids that a merge adds, in the order in which they are kept first. -/
def newIds (current : List Run) (previous batch : List Json) : List String :=
  ((keptPayloads current previous batch).filterMap identity?).eraseDups.filter
    fun id ↦ id ∉ current.map Run.id

/-- The run of the payload that is kept last for an id, or the old run where none is kept. -/
def latestRun? (current : List Run) (previous batch : List Json) (id : String) : Option Run :=
  ((lastPayload? (keptPayloads current previous batch) id).bind Run.ofPayload?).or
    (runOf? current id)

/-- The counters of a merge say what became of the payloads. -/
structure Accounts (current : List Run) (previous batch : List Json)
    (result : List Run × MergeStats) : Prop where
  /-- Every kept payload is counted. -/
  normalized : result.2.normalized = (keptPayloads current previous batch).length
  /-- Every skipped payload is counted. -/
  reused : result.2.reused = (reusedPayloads current previous batch).length
  /-- No payload is left out and none is counted twice. -/
  total : result.2.normalized + result.2.reused + result.2.dropped = batch.length
  /-- The set has grown by the runs that were added. -/
  appended : result.2.appended + current.length = result.1.length

/-- What a merge leads to, said of the batch as a whole. -/
structure IsMerged (current : List Run) (previous batch : List Json)
    (result : List Run × MergeStats) : Prop where
  /-- The old ids stay where they are, and the new ones follow in the order in which they were kept
  first. -/
  ids : result.1.map Run.id = current.map Run.id ++ newIds current previous batch
  /-- Every run is that of the payload kept last for its id, or the old one. -/
  runs : ∀ run ∈ result.1, latestRun? current previous batch run.id = some run
  /-- The counters say what became of the payloads. -/
  accounts : Accounts current previous batch result

/-! ## The last moment -/

variable {current : List Run} {previous batch : List Json}

@[simp] theorem moments_concat (current : List Run) (previous batch : List Json) (payload : Json) :
    moments current previous (batch ++ [payload])
      = moments current previous batch ++ [((merge current previous batch).1, payload)] := by
  have hfront : ∀ e ∈ batch.zipIdx, (batch ++ [payload]).take e.2 = batch.take e.2 := by
    rintro ⟨earlier, place⟩ he
    obtain ⟨-, hplace, -⟩ := List.mem_zipIdx he
    exact List.take_append_of_le_length (by omega)
  rw [moments, List.zipIdx_append, List.map_append, List.zipIdx_singleton, List.map_singleton,
    moments, List.map_congr_left fun e he ↦ by rw [hfront e he]]
  dsimp only
  rw [Nat.zero_add, List.take_left]

@[simp] theorem payloadsWhen_concat (condition : List Run → Json → Bool) (current : List Run)
    (previous batch : List Json) (payload : Json) :
    payloadsWhen condition current previous (batch ++ [payload])
      = payloadsWhen condition current previous batch
        ++ if condition (merge current previous batch).1 payload then [payload] else [] := by
  by_cases h : condition (merge current previous batch).1 payload = true
  · simp [payloadsWhen, h]
  · simp [payloadsWhen, h]

theorem isKept_iff {runs : List Run} {payload : Json} :
    isKept previous runs payload = true
      ↔ isReused previous runs payload = false ∧ ∃ run, Run.ofPayload? payload = some run := by
  rw [isKept, Bool.and_eq_true, Bool.not_eq_true', Option.isSome_iff_exists]

theorem of_mem_keptPayloads {batch : List Json} {payload : Json}
    (h : payload ∈ keptPayloads current previous batch) :
    payload ∈ batch ∧ ∃ run, Run.ofPayload? payload = some run := by
  obtain ⟨⟨runs, kept⟩, hmoment, rfl⟩ := List.mem_map.mp h
  obtain ⟨hmem, hkept⟩ := List.mem_filter.mp hmoment
  obtain ⟨⟨place, e⟩, hplace, he⟩ := List.mem_map.mp hmem
  obtain ⟨-, rfl⟩ := Prod.mk.inj he
  exact ⟨List.fst_mem_of_mem_zipIdx hplace, (isKept_iff.mp hkept).2⟩

theorem merge_concat_cases (current : List Run) (previous batch : List Json) (payload : Json) :
    ((merge current previous (batch ++ [payload])).1 = (merge current previous batch).1 ∧
        keptPayloads current previous (batch ++ [payload]) = keptPayloads current previous batch) ∨
      ∃ run, Run.ofPayload? payload = some run ∧
        (merge current previous (batch ++ [payload])).1
          = put run (merge current previous batch).1 ∧
        keptPayloads current previous (batch ++ [payload])
          = keptPayloads current previous batch ++ [payload] := by
  rw [fst_merge_concat, keptPayloads, payloadsWhen_concat, ← keptPayloads]
  cases hkept : isKept previous (merge current previous batch).1 payload with
  | true =>
    obtain ⟨hreused, run, hrun⟩ := isKept_iff.mp hkept
    right
    exact ⟨run, hrun, afterPayload_of_not_isReused hreused hrun, rfl⟩
  | false =>
    left
    refine ⟨?_, List.append_nil _⟩
    obtain hsame | ⟨run, hrun, -⟩ :=
      afterPayload_cases previous (merge current previous batch).1 payload
    · exact hsame
    · -- it delivers a run and is not kept, so it is skipped
      rw [isKept, hrun, Option.isSome_some, Bool.and_true, Bool.not_eq_false'] at hkept
      rw [afterPayload, if_pos hkept]

/-! ## What stands under an id -/

/-- Under every id stands the run of the payload kept last for it, or else the old run. The ids of
the set may repeat here. -/
theorem runOf?_merge (current : List Run) (previous batch : List Json) (id : String) :
    runOf? (merge current previous batch).1 id = latestRun? current previous batch id := by
  induction batch using List.reverseRecOn with
  | nil => rfl
  | append_singleton batch payload ih =>
    rw [latestRun?]
    obtain ⟨hsame, hkept⟩ | ⟨run, hrun, hput, hkept⟩ :=
      merge_concat_cases current previous batch payload
    · rw [hsame, hkept, ih, latestRun?]
    · have hidentity := identity?_of_ofPayload? hrun
      rw [hput, hkept, runOf?_put, ih, latestRun?]
      by_cases hid : id = run.id
      · simp [hid, hidentity, hrun]
      · simp [hid, hidentity, Ne.symm hid]

/-! ## The ids -/

theorem filter_eraseDups_concat (old ids : List String) (last : String) :
    ((ids ++ [last]).eraseDups.filter fun id ↦ id ∉ old)
      = (ids.eraseDups.filter fun id ↦ id ∉ old)
        ++ if last ∈ old ++ ids.eraseDups.filter (fun id ↦ id ∉ old) then [] else [last] := by
  rw [List.eraseDups_append, List.filter_append]
  congr 1
  -- what is left of the one id is empty for either of two reasons
  by_cases hids : last ∈ ids
  · by_cases hold : last ∈ old <;> simp [List.removeAll, hold, hids]
  · by_cases hold : last ∈ old <;> simp [List.removeAll, List.eraseDups_cons, hold, hids]

theorem map_id_merge_eq (current : List Run) (previous batch : List Json) :
    (merge current previous batch).1.map Run.id
      = current.map Run.id ++ newIds current previous batch := by
  induction batch using List.reverseRecOn with
  | nil => exact (List.append_nil _).symm
  | append_singleton batch payload ih =>
    rw [newIds]
    obtain ⟨hsame, hkept⟩ | ⟨run, hrun, hput, hkept⟩ :=
      merge_concat_cases current previous batch payload
    · rw [hsame, hkept, ih, newIds]
    · rw [hput, hkept, List.filterMap_append,
        List.filterMap_cons_some (identity?_of_ofPayload? hrun), List.filterMap_nil, map_id_put,
        filter_eraseDups_concat, ← newIds, ih]
      by_cases hold : run.id ∈ current.map Run.id ++ newIds current previous batch
      · rw [if_pos hold, if_pos hold, List.append_nil]
      · rw [if_neg hold, if_neg hold, List.append_assoc]

/-! ## The counters -/

theorem State.put_grows (s : State) (run : Run) :
    ∃ added, (s.put run).runs.length = s.runs.length + added ∧
      (s.put run).stats = { s.stats with appended := s.stats.appended + added } := by
  rw [State.put]
  cases s.places.get? run.id with
  | none => exact ⟨1, by simp, rfl⟩
  | some place => exact ⟨0, by simp, rfl⟩

/-- A payload is counted once: as kept, as reused, or else as dropped. -/
theorem State.IsIndexed.stats_step {s : State} (h : s.IsIndexed) (previous : List Json)
    (payload : Json) :
    ∃ dropped added,
      (isKept previous s.runs payload).toNat + (isReused previous s.runs payload).toNat + dropped
        = 1 ∧
      (s.step (lastPayloads previous) payload).runs.length = s.runs.length + added ∧
      (s.step (lastPayloads previous) payload).stats
        = ⟨s.stats.normalized + (isKept previous s.runs payload).toNat,
            s.stats.reused + (isReused previous s.runs payload).toNat,
            s.stats.dropped + dropped, s.stats.appended + added⟩ := by
  rw [State.step, h.skips_eq, isKept]
  cases isReused previous s.runs payload with
  | true => exact ⟨0, 0, rfl, rfl, rfl⟩
  | false =>
    cases Run.ofPayload? payload with
    | none => exact ⟨1, 0, rfl, rfl, rfl⟩
    | some run =>
      obtain ⟨added, hlength, hstats⟩ := State.put_grows
        { s with stats := { s.stats with normalized := s.stats.normalized + 1 } } run
      exact ⟨0, added, rfl, hlength, hstats⟩

theorem length_payloadsWhen_concat (condition : List Run → Json → Bool) (current : List Run)
    (previous batch : List Json) (payload : Json) :
    (payloadsWhen condition current previous (batch ++ [payload])).length
      = (payloadsWhen condition current previous batch).length
        + (condition (merge current previous batch).1 payload).toNat := by
  cases h : condition (merge current previous batch).1 payload with
  | true => simp [h]
  | false => simp [h]

theorem Accounts.step {s : State} (h : Accounts current previous batch (s.runs, s.stats))
    (hindexed : s.IsIndexed) (hruns : s.runs = (merge current previous batch).1) (payload : Json) :
    Accounts current previous (batch ++ [payload])
      ((s.step (lastPayloads previous) payload).runs,
        (s.step (lastPayloads previous) payload).stats) := by
  obtain ⟨hnormalized, hreused, htotal, happended⟩ := h
  obtain ⟨dropped, added, hone, hlength, hstats⟩ := hindexed.stats_step previous payload
  have hkept := length_payloadsWhen_concat (isKept previous) current previous batch payload
  have hskipped := length_payloadsWhen_concat (isReused previous) current previous batch payload
  rw [← keptPayloads, ← keptPayloads, ← hruns, ← hnormalized] at hkept
  rw [← reusedPayloads, ← reusedPayloads, ← hruns, ← hreused] at hskipped
  rw [hstats]
  refine ⟨hkept.symm, hskipped.symm, ?_, ?_⟩
  · rw [List.length_append, List.length_singleton, ← htotal]
    dsimp only
    omega
  · rw [hlength, ← happended]
    dsimp only
    omega

theorem accounts_merge (current : List Run) (previous batch : List Json) :
    Accounts current previous batch (merge current previous batch) := by
  induction batch using List.reverseRecOn with
  | nil => exact ⟨rfl, rfl, rfl, Nat.zero_add _⟩
  | append_singleton batch payload ih =>
    -- the counters are read off the state, and only its index tells what a step does
    obtain ⟨-, hindexed⟩ := (isIndexed_start current).foldl_step previous batch
    have hnext := Accounts.step ih hindexed rfl payload
    rw [merge, List.foldl_append, List.foldl_cons, List.foldl_nil]
    exact hnext

theorem Accounts.eq {runs : List Run} {stats others : MergeStats}
    (h : Accounts current previous batch (runs, stats))
    (hothers : Accounts current previous batch (runs, others)) : stats = others := by
  obtain ⟨hnormalized, hreused, htotal, happended⟩ := h
  obtain ⟨hnormalized', hreused', htotal', happended'⟩ := hothers
  cases stats
  cases others
  rw [MergeStats.mk.injEq]
  dsimp only at *
  omega

/-! ## The result as a whole -/

theorem isMerged_merge (hids : (current.map Run.id).Nodup) (previous batch : List Json) :
    IsMerged current previous batch (merge current previous batch) where
  ids := map_id_merge_eq current previous batch
  runs := by
    intro run hrun
    rw [← runOf?_merge]
    exact runOf?_of_mem (nodup_merge hids previous batch) hrun
  accounts := accounts_merge current previous batch

theorem IsMerged.fst_eq {result : List Run × MergeStats}
    (h : IsMerged current previous batch result) :
    result.1 = (current.map Run.id ++ newIds current previous batch).filterMap
      (latestRun? current previous batch) := by
  have hlatest : ∀ run ∈ result.1, (latestRun? current previous batch ∘ Run.id) run = some run :=
    h.runs
  rw [← h.ids, List.filterMap_map, List.filterMap_congr hlatest, List.filterMap_some]

/-- **The exact result of a merge.** The conditions hold of it, and of nothing else. -/
theorem merge_eq_iff_isMerged (hids : (current.map Run.id).Nodup) (previous batch : List Json)
    (result : List Run × MergeStats) :
    merge current previous batch = result ↔ IsMerged current previous batch result := by
  constructor
  · rintro rfl
    exact isMerged_merge hids previous batch
  · obtain ⟨runs, stats⟩ := result
    intro h
    have hmerged := isMerged_merge hids previous batch
    have hruns : (merge current previous batch).1 = runs := hmerged.fst_eq.trans h.fst_eq.symm
    have haccounts : Accounts current previous batch (runs, (merge current previous batch).2) :=
      hruns ▸ hmerged.accounts
    exact Prod.ext hruns (haccounts.eq h.accounts)

/-- A batch that repeats the run of the previous one, adds a run twice, holds something without a
name, and ends with news of the old run. -/
theorem isMerged_of_every_sort_of_payload :
    let payload (name state : String) : Json :=
      .object [("name", .string name), ("state", .string state)]
    let previous := [payload "a" "running"]
    let batch := [payload "a" "running", payload "b" "running", .object [("id", .string "a")],
      payload "b" "finished", payload "a" "finished"]
    let current := (merge [] [] previous).1
    (current.map Run.id).Nodup ∧
      IsMerged current previous batch (merge current previous batch) ∧
      (merge current previous batch).1.map (fun run ↦ (run.id, run.state))
        = [("a", .finished), ("b", .finished)] ∧
      (merge current previous batch).2 = ⟨3, 1, 1, 1⟩ := by
  intro payload previous batch current
  have hids : (current.map Run.id).Nodup := by decide
  exact ⟨hids, (merge_eq_iff_isMerged hids previous batch _).mp rfl, by decide, by decide⟩

end RunQuery.Merge
