import RunQuery.Proofs.Merge.Batch

/-!
# When skipping payloads changes nothing

A payload that the previous batch delivered already is skipped, which saves reading it again. The
result is that of a merge which skips nothing exactly if no skipped payload was needed: each one
that is the last to deliver its run has to find this very run in the set. A skipped payload that is
followed by another one for the same run does not matter.

The ids never come into it. A payload is only skipped if its run is there, so both merges have the
same ids in the same order, and they are compared by what stands under each.
-/

namespace RunQuery.Merge

/-- Every payload of the batch that is skipped, and after which none delivers its run, finds the
run that it delivers in the set. -/
def SkipsSafely (previous : List Json) (current : List Run) (batch : List Json) : Prop :=
  ∀ before payload after run, batch = before ++ payload :: after →
    isReused previous (merge current previous before).1 payload = true →
    Run.ofPayload? payload = some run →
    (∀ later ∈ after, delivers run.id later = false) →
    run ∈ (merge current previous before).1

theorem skipsSafely_nil (current : List Run) (batch : List Json) :
    SkipsSafely [] current batch := by
  intro before payload after run _ hreused
  simp at hreused

theorem runOf?_merge_of_last (current : List Run) (previous before : List Json)
    {after : List Json} {payload : Json} {run : Run} (hrun : Run.ofPayload? payload = some run)
    (hlast : ∀ later ∈ after, delivers run.id later = false) :
    runOf? (merge current previous (before ++ payload :: after)).1 run.id
      = if isReused previous (merge current previous before).1 payload
        then runOf? (merge current previous before).1 run.id else some run := by
  rw [fst_merge_append, List.foldl_cons, runOf?_foldl_of_not_delivers hlast]
  cases hreused : isReused previous (merge current previous before).1 payload with
  | true => simp [afterPayload, hreused]
  | false => simp [afterPayload_of_not_isReused hreused hrun]

theorem exists_last_delivery {id : String} {batch : List Json}
    (h : ∃ payload ∈ batch, delivers id payload = true) :
    ∃ before payload after run, batch = before ++ payload :: after ∧
      Run.ofPayload? payload = some run ∧ run.id = id ∧
      ∀ later ∈ after, delivers id later = false := by
  induction batch using List.reverseRecOn with
  | nil => simp at h
  | append_singleton batch last ih =>
    by_cases hlast : delivers id last = true
    · obtain ⟨run, hrun, hid⟩ := delivers_iff.mp hlast
      exact ⟨batch, last, [], run, rfl, hrun, hid, by simp⟩
    · obtain ⟨payload, hpayload, hdelivers⟩ := h
      have hmem : payload ∈ batch := by
        rcases List.mem_append.mp hpayload with hmem | hmem
        · exact hmem
        · exact absurd (List.mem_singleton.mp hmem ▸ hdelivers) hlast
      obtain ⟨before, payload, after, run, hsplit, hrun, hid, hafter⟩ :=
        ih ⟨payload, hmem, hdelivers⟩
      refine ⟨before, payload, after ++ [last], run, by rw [hsplit]; simp, hrun, hid, ?_⟩
      intro later hlater
      rcases List.mem_append.mp hlater with hlater | hlater
      · exact hafter later hlater
      · exact List.mem_singleton.mp hlater ▸ Bool.eq_false_iff.mpr hlast

/-- The shortcut agrees with the merge that skips nothing exactly if it skips safely. -/
theorem merge_eq_merge_nil_iff {current : List Run} (hids : (current.map Run.id).Nodup)
    (previous batch : List Json) :
    (merge current previous batch).1 = (merge current [] batch).1
      ↔ SkipsSafely previous current batch := by
  constructor
  · intro heq before payload after run hbatch hreused hrun hlast
    have hshort := runOf?_merge_of_last current previous before hrun hlast
    have hplain := runOf?_merge_of_last current [] before hrun hlast
    rw [← hbatch, if_pos hreused, heq] at hshort
    rw [← hbatch, isReused_nil, hshort] at hplain
    exact mem_of_runOf? hplain
  · -- the ids are the same in the same order, so it is enough to look up each of them
    intro hsafe
    refine eq_of_runOf? (nodup_merge hids previous batch) (map_id_merge current previous batch)
      fun id ↦ ?_
    by_cases hdelivered : ∃ payload ∈ batch, delivers id payload = true
    · obtain ⟨before, payload, after, run, hbatch, hrun, rfl, hlast⟩ :=
        exists_last_delivery hdelivered
      rw [hbatch, runOf?_merge_of_last _ _ _ hrun hlast, runOf?_merge_of_last _ _ _ hrun hlast]
      by_cases hreused : isReused previous (merge current previous before).1 payload = true
      · have hmem := hsafe before payload after run hbatch hreused hrun hlast
        simp [hreused, runOf?_of_mem (nodup_merge hids previous before) hmem]
      · simp [hreused]
    · have hnone : ∀ payload ∈ batch, delivers id payload = false := fun payload hpayload ↦
        Bool.eq_false_iff.mpr fun h ↦ hdelivered ⟨payload, hpayload, h⟩
      rw [fst_merge, fst_merge, runOf?_foldl_of_not_delivers hnone,
        runOf?_foldl_of_not_delivers hnone]

end RunQuery.Merge
