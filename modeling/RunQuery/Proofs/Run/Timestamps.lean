import RunQuery.Proofs.Run.Snapshot
import RunQuery.Proofs.Timestamp.Zone

/-!
# Timestamps of runs

A payload's timestamp without a zone is in universal time, and one with a zone is that instant if
the zone is seen. Where it is not seen the run has no timestamp, although a snapshot with the same
text has one.

The text of an instant in a year of four digits has a zone that is seen. Read from a payload or from
a snapshot it gives the same instant, the one cut to milliseconds, and that has the same text.
-/

namespace RunQuery

open Timestamp

/-! ## Timestamps that are delivered -/

namespace Run

variable {payload : Json}

theorem instantField?_eq_read? {member text : String}
    (h : textField? payload member = some text) :
    instantField? payload member = Timestamp.read? text := by
  rw [instantField?, h, Option.bind_some]

/-- **The timestamps of a payload.** One in the standard notation is kept, as just that instant, if
its zone is shown, and is dropped if not. One that only lacks a zone is kept, in universal time. -/
theorem exists_ofPayload?_of_timestamps {name : String}
    (hname : textField? payload "name" = some name) :
    ∃ run, ofPayload? payload = some run ∧
      ∀ field ∈ [("createdAt", run.createdAt), ("heartbeatAt", run.heartbeatAt)],
        ∀ text, textField? payload field.1 = some text →
          (∀ i, standard? text.toList = some i →
            field.2 = if ShowsZone text.toList then some i else none) ∧
          ∀ i, standard? (text.toList ++ ['Z']) = some i → field.2 = some i := by
  refine ⟨_, Option.bind_eq_some_iff.mpr ⟨name, hname, rfl⟩, ?_⟩
  intro field hfield text htext
  have hread : field.2 = Timestamp.read? text := by
    rcases List.mem_pair.mp hfield with rfl | rfl
    · exact instantField?_eq_read? htext
    · exact instantField?_eq_read? htext
  rw [hread]
  exact ⟨fun i hi ↦ read?_eq_ite hi, fun i hi ↦ read?_eq_some_of_append hi⟩

/-- A payload with a timestamp in another zone and one without a zone. -/
def zonedPayload : Json := .object [
  ("createdAt", .string "2018-03-28T02:19:09.777+02:00"),
  ("heartbeatAt", .string "2018-03-28 02:21:10.277"), ("name", .string "r")]

/-- Both of its timestamps are kept. -/
theorem ofPayload?_zonedPayload :
    ∃ run, ofPayload? zonedPayload = some run ∧
      run.createdAt = some ⟨17618, 1149, 777000000, by decide, by decide, by decide⟩ ∧
      run.heartbeatAt = some ⟨17618, 8470, 277000000, by decide, by decide, by decide⟩ := by
  have hname : textField? zonedPayload "name" = some "r" := by decide +kernel
  have hcreated : textField? zonedPayload "createdAt" = some "2018-03-28T02:19:09.777+02:00" := by
    decide +kernel
  have hheartbeat : textField? zonedPayload "heartbeatAt" = some "2018-03-28 02:21:10.277" := by
    decide +kernel
  obtain ⟨run, hrun, hfields⟩ := exists_ofPayload?_of_timestamps hname
  refine ⟨run, hrun, ?_, ?_⟩
  · obtain ⟨hzoned, -⟩ := hfields ("createdAt", run.createdAt) (List.mem_cons_self ..) _ hcreated
    exact (hzoned _ (by decide +kernel)).trans (if_pos (by decide +kernel))
  · obtain ⟨-, hbare⟩ := hfields ("heartbeatAt", run.heartbeatAt)
      (List.mem_cons_of_mem _ (List.mem_cons_self ..)) _ hheartbeat
    exact hbare _ (by decide +kernel)

/-- A payload with a timestamp in another zone and a blank before its time of day. -/
def blankPayload : Json := .object [
  ("createdAt", .string "2018-03-28 02:19:09+02:00"), ("name", .string "r")]

/-- That timestamp is in the standard notation, but the run has none. -/
theorem createdAt_of_blankPayload :
    standard? "2018-03-28 02:19:09+02:00".toList
        = some ⟨17618, 1149, 0, by decide, by decide, by decide⟩ ∧
      textField? blankPayload "createdAt" = some "2018-03-28 02:19:09+02:00" ∧
      ∃ run, ofPayload? blankPayload = some run ∧ run.createdAt = none := by
  have hcreated : (ofPayload? blankPayload).map Run.createdAt = some none := by
    decide +kernel
  exact ⟨by decide +kernel, by decide +kernel, Option.map_eq_some_iff.mp hcreated⟩

end Run

/-! ## Timestamps that are written -/

namespace Instant

variable {i : Instant}

@[simp] theorem nanosSince_cutToMillis (i : Instant) :
    i.nanosSince i.cutToMillis = i.nano % 1000000 := by
  have hday : i.cutToMillis.day = i.day := rfl
  have hsecond : i.cutToMillis.second = i.second := rfl
  have hnano : i.cutToMillis.nano = i.nano / 1000000 * 1000000 := rfl
  rw [nanosSince, hsecond, if_neg (Nat.lt_irrefl _), if_neg (Nat.lt_irrefl _), hday, hnano]
  omega

theorem text_cutToMillis (i : Instant) : i.cutToMillis.text = i.text := by
  have hleap : nanosPerSecond ≤ i.nano / 1000000 * 1000000 ↔ nanosPerSecond ≤ i.nano := by
    rw [nanosPerSecond]
    omega
  have hmillis : i.nano / 1000000 * 1000000 % nanosPerSecond / 1000000
      = i.nano % nanosPerSecond / 1000000 := by
    rw [nanosPerSecond]
    omega
  simp only [text, cutToMillis, hleap, hmillis]

theorem getLast?_text (i : Instant) : i.text.toList.getLast? = some 'Z' := by
  rw [text, String.toList_ofList, List.getLast?_concat]

/-- **Written timestamps are read back** from payloads and from snapshots, cut to milliseconds, and
what is read has the same text. -/
theorem read?_text_of_hasShortYear (h : i.HasShortYear) :
    Timestamp.read? i.text = some i.cutToMillis ∧
      Run.readInstant? (Tree.string i.text : Json) = some (some i.cutToMillis) ∧
      i.cutToMillis.text = i.text ∧
      0 ≤ i.nanosSince i.cutToMillis ∧ i.nanosSince i.cutToMillis < 1000000 := by
  refine ⟨?_, ?_, i.text_cutToMillis, ?_⟩
  · rw [read?_eq_ite h.standard?_text, if_pos (.inl i.getLast?_text)]
  · simp [h.standard?_text]
  · simp only [nanosSince_cutToMillis]
    omega

/-- An instant in a leap second before the year 1970, not in whole milliseconds. -/
def leapInstant : Instant := ⟨-1, 86399, 1234567890, by decide, by decide, by decide⟩

/-- It is read as the millisecond before it, of the same leap second. -/
theorem read?_text_leapInstant :
    leapInstant.text = "1969-12-31T23:59:60.234Z" ∧
      Timestamp.read? leapInstant.text
        = some ⟨-1, 86399, 1234000000, by decide, by decide, by decide⟩ ∧
      Run.readInstant? (Tree.string leapInstant.text : Json)
        = some (some ⟨-1, 86399, 1234000000, by decide, by decide, by decide⟩) := by
  have hyear : leapInstant.HasShortYear := by decide +kernel
  obtain ⟨hpayload, hsnapshot, -⟩ := read?_text_of_hasShortYear hyear
  exact ⟨by decide +kernel, hpayload, hsnapshot⟩

end Instant

end RunQuery
