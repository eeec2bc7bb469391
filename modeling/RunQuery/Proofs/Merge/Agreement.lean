import RunQuery.Proofs.Merge.Outcome
import RunQuery.Proofs.Merge.Reuse

/-!
# Skipping what the set already holds

The shortcut of a merge is meant for a set that *reflects* the previous batch: the run of an
identity is the one that the last payload of that identity delivered. What such a payload would
deliver again is there already, so it seems safe to skip it.

It is safe as long as the set goes on reflecting that payload. A batch may change a run and then
change it back; the payload that changes it back equals the one of the previous batch, and is
skipped although another run stands in its place by now. So the run that counts is not the one that
the set held at the beginning. It is the one of the payload that came last for this identity, be it
from the previous batch or kept since, and this has to be the run that the skipped payload would
have delivered.

Equal payloads need not deliver the same run either, since zeros of different sign are equal
numbers.
-/

namespace RunQuery.Merge

/-- The set holds what the previous batch delivered: the run of every identity that is in both is
that of its last payload. -/
def Reflects (previous : List Json) (current : List Run) : Prop :=
  ∀ id payload, lastPayload? previous id = some payload → id ∈ current.map Run.id →
    runOf? current id = Run.ofPayload? payload

/-- Every payload of the batch that is skipped, and after which none delivers its run, would
deliver the run of the payload that came last for its identity, from the previous batch or kept
from this one. -/
def SkipsRepetitions (previous : List Json) (current : List Run) (batch : List Json) : Prop :=
  ∀ before payload after run, batch = before ++ payload :: after →
    isReused previous (merge current previous before).1 payload = true →
    Run.ofPayload? payload = some run →
    (∀ later ∈ after, delivers run.id later = false) →
    (lastPayload? (previous ++ keptPayloads current previous before) run.id).bind Run.ofPayload?
      = some run

variable {current : List Run} {previous : List Json}

theorem runOf?_of_isReused (hreflects : Reflects previous current) {before : List Json}
    {payload : Json} {run : Run}
    (hreused : isReused previous (merge current previous before).1 payload = true)
    (hrun : Run.ofPayload? payload = some run) :
    runOf? (merge current previous before).1 run.id
      = (lastPayload? (previous ++ keptPayloads current previous before) run.id).bind
          Run.ofPayload? := by
  have hpresent : runOf? (merge current previous before).1 run.id ≠ none := fun hnone ↦
    runOf?_eq_none_iff.mp hnone (id_mem_of_isReused hreused hrun)
  rw [runOf?_merge, latestRun?] at hpresent ⊢
  cases hkept : lastPayload? (keptPayloads current previous before) run.id with
  | some last =>
    obtain ⟨-, found, hfound⟩ := of_mem_keptPayloads (mem_of_lastPayload? hkept)
    simp [hkept, hfound]
  | none =>
    -- nothing was kept for it, so its run has been in the set from the beginning
    obtain ⟨earlier, hearlier, -⟩ := exists_lastPayload?_of_isReused hreused hrun
    rw [hkept, Option.bind_none, Option.none_or] at hpresent
    have hid : run.id ∈ current.map Run.id := by
      by_contra habsent
      exact hpresent (runOf?_eq_none_iff.mpr habsent)
    simpa [hkept, hearlier] using hreflects run.id earlier hearlier hid

theorem skipsSafely_iff_skipsRepetitions (hids : (current.map Run.id).Nodup)
    (hreflects : Reflects previous current) (batch : List Json) :
    SkipsSafely previous current batch ↔ SkipsRepetitions previous current batch := by
  have hstands : ∀ before payload run,
      isReused previous (merge current previous before).1 payload = true →
      Run.ofPayload? payload = some run →
      (run ∈ (merge current previous before).1
        ↔ (lastPayload? (previous ++ keptPayloads current previous before) run.id).bind
            Run.ofPayload? = some run) := by
    intro before payload run hreused hrun
    rw [← runOf?_of_isReused hreflects hreused hrun]
    exact ⟨runOf?_of_mem (nodup_merge hids previous before), mem_of_runOf?⟩
  constructor
  · intro hsafe before payload after run hbatch hreused hrun hlast
    exact (hstands before payload run hreused hrun).mp
      (hsafe before payload after run hbatch hreused hrun hlast)
  · intro hsafe before payload after run hbatch hreused hrun hlast
    exact (hstands before payload run hreused hrun).mpr
      (hsafe before payload after run hbatch hreused hrun hlast)

theorem skipsRepetitions_of_nodup {batch : List Json}
    (honce : ((batch.filterMap Run.ofPayload?).map Run.id).Nodup)
    (hequal : ∀ earlier ∈ previous, ∀ payload ∈ batch, samePayload earlier payload = true →
      Run.ofPayload? earlier = Run.ofPayload? payload) :
    SkipsRepetitions previous current batch := by
  rintro before payload after run rfl hreused hrun -
  have hnone : lastPayload? (keptPayloads current previous before) run.id = none := by
    by_contra hkept
    obtain ⟨last, hlast⟩ := Option.ne_none_iff_exists'.mp hkept
    obtain ⟨hmem, found, hfound⟩ := of_mem_keptPayloads (mem_of_lastPayload? hlast)
    have hid : found.id = run.id := by
      have hidentity := identity?_of_lastPayload? hlast
      rw [identity?_of_ofPayload? hfound] at hidentity
      exact Option.some.inj hidentity
    rw [List.filterMap_append, List.map_append, List.filterMap_cons_some hrun,
      List.nodup_append] at honce
    exact honce.2.2 found.id (List.mem_map_of_mem (List.mem_filterMap.mpr ⟨last, hmem, hfound⟩))
      run.id (by simp) hid
  obtain ⟨earlier, hearlier, hsame⟩ := exists_lastPayload?_of_isReused hreused hrun
  have hdelivers := hequal earlier (mem_of_lastPayload? hearlier) payload (by simp) hsame
  simp [hnone, hearlier, hdelivers, hrun]

theorem runOf?_merge_nil_of_last (current : List Run) {before after : List Json} {payload : Json}
    {run : Run} (hrun : Run.ofPayload? payload = some run)
    (hlast : ∀ later ∈ after, delivers run.id later = false) :
    runOf? (merge current [] (before ++ payload :: after)).1 run.id = some run := by
  simp [runOf?_merge_of_last current [] before hrun hlast]

/-- **The shortcut over a set that reflects the previous batch** agrees with the merge that skips
nothing exactly if every payload that is skipped for good repeats the one that came last for its
run. Then the last payload that delivers a run of an id wins. -/
theorem merge_eq_merge_nil_iff_of_reflects (hids : (current.map Run.id).Nodup)
    (hreflects : Reflects previous current) (batch : List Json) :
    ((merge current previous batch).1 = (merge current [] batch).1
        ↔ SkipsRepetitions previous current batch) ∧
      (SkipsRepetitions previous current batch →
        ∀ before payload after run, batch = before ++ payload :: after →
          Run.ofPayload? payload = some run →
          (∀ later ∈ after, delivers run.id later = false) →
          runOf? (merge current previous batch).1 run.id = some run) := by
  have hagree : (merge current previous batch).1 = (merge current [] batch).1
      ↔ SkipsRepetitions previous current batch := by
    rw [merge_eq_merge_nil_iff hids, skipsSafely_iff_skipsRepetitions hids hreflects]
  refine ⟨hagree, ?_⟩
  intro hsafe before payload after run hbatch hrun hlast
  rw [hagree.mpr hsafe, hbatch]
  exact runOf?_merge_nil_of_last current hrun hlast

/-- The payload of the previous batch comes again before a new one, and is skipped. -/
theorem merge_eq_merge_nil_of_repeated_payload :
    let payload (name : String) : Json := .object [("name", .string name)]
    let previous := [payload "a"]
    let current := (merge [] [] previous).1
    let batch := [payload "a", payload "b"]
    (current.map Run.id).Nodup ∧ Reflects previous current ∧
      (merge current previous batch).2 = ⟨1, 1, 0, 1⟩ ∧
      (merge current previous batch).1 = (merge current [] batch).1 := by
  intro payload previous current batch
  have hids : (current.map Run.id).Nodup := by decide
  have hreflects : Reflects previous current := by
    intro id earlier hearlier hid
    obtain rfl : id = "a" := List.mem_singleton.mp hid
    obtain rfl := Option.some.inj hearlier
    rfl
  have hskips : SkipsRepetitions previous current batch := by
    refine skipsRepetitions_of_nodup (by decide) ?_
    intro earlier hearlier later hlater hsame
    obtain rfl := List.mem_singleton.mp hearlier
    rcases List.mem_pair.mp hlater with rfl | rfl
    · rfl
    · exact absurd hsame (by decide)
  exact ⟨hids, hreflects, by decide,
    (merge_eq_merge_nil_iff_of_reflects hids hreflects batch).1.mpr hskips⟩

/-- **The shortcut loses a payload** that takes back what an earlier one of its batch has changed:
it equals the payload of the previous batch, so it is skipped, and the changed run stays. -/
theorem merge_ne_merge_nil_of_change_taken_back :
    ¬ ∀ (current : List Run) (previous batch : List Json), (current.map Run.id).Nodup →
      Reflects previous current →
      (merge current previous batch).1 = (merge current [] batch).1 := by
  intro h
  let payload (state : String) : Json := .object [("name", .string "a"), ("state", .string state)]
  have hreflects : Reflects [payload "finished"] (merge [] [] [payload "finished"]).1 := by
    intro id earlier hearlier hid
    obtain rfl : id = "a" := List.mem_singleton.mp hid
    obtain rfl := Option.some.inj hearlier
    rfl
  have hsame := h (merge [] [] [payload "finished"]).1 [payload "finished"]
    [payload "running", payload "finished"] (by decide) hreflects
  exact absurd (congrArg (List.map Run.state) hsame) (by decide)

end RunQuery.Merge
