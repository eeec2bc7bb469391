import RunQuery.Proofs.Dict.Entries
import RunQuery.Proofs.Filter.Compiled
import RunQuery.Proofs.Pipeline.RunSet

/-!
# What a response says

The parts of a response are made one after the other, and some of them twice over: which runs are
highlighted is found before the runs are sorted, since runs can be sorted by it, and is looked up by
the ids of the runs once they are. Where no two runs share an id nothing is lost on that way, and a
response can be described without it. `Response.Answers` says part by part what a response is.
-/

namespace RunQuery

theorem SortOrder.sort_perm (order : SortOrder) (selected : List String) (runs : List Run) :
    (order.sort selected runs).Perm runs := by
  rw [sort]
  cases order.subject? with
  | none => exact .refl _
  | some subject =>
    have hsorted := (List.mergeSort_perm (runs.map fun run ↦ (subject.value? selected run, run))
      fun a b ↦ precedes order.ascending a.1 b.1).map Prod.snd
    rwa [List.map_map, show Prod.snd ∘ (fun run ↦ (subject.value? selected run, run)) = id from rfl,
      List.map_id] at hsorted

/-- What the answer to a query about a set of runs is. -/
structure Response.Answers (query : Query) (config : EngineConfig) (runs : List Run)
    (response : Response) : Prop where
  /-- The set of runs comes with it. -/
  base : response.base = runs
  /-- The runs that pass the filter, in some order. -/
  filtered : response.filtered.Perm
    (runs.filter fun run ↦ query.filters.passes Pattern.test? run)
  /-- The highlighted ones among them, in the same order. -/
  selected : response.selected
    = response.filtered.filter fun run ↦ query.selections.passes Pattern.test? run
  /-- A name stands for the last run of that name. -/
  filteredByName : ∀ name, response.filteredByName.get? name
    = (response.filtered.filter fun run ↦ run.name = name).getLast?
  /-- A name stands for the id of the last highlighted run of that name. -/
  selectedIds : ∀ name, response.selectedIds.get? name
    = (response.selected.filter fun run ↦ run.name = name).getLast?.map Run.id
  /-- The rows are the first ones of all. -/
  rows : response.rows <+: Grouping.rows query.grouping query.level response.filtered
  /-- They are as many as a page holds. -/
  length_rows : response.rows.length
    = (query.page.or config.defaultPageSize).elim response.totalRows (min response.totalRows)
  /-- All rows are counted. -/
  totalRows : response.totalRows
    = (Grouping.rows query.grouping query.level response.filtered).length

namespace Query

variable {query : Query} {config : EngineConfig} {runs : List Run}

theorem contains_map_id_filter {test : Run → Bool} (hids : (runs.map Run.id).Nodup) {run : Run}
    (hrun : run ∈ runs) : ((runs.filter test).map Run.id).contains run.id = test run := by
  rw [Bool.eq_iff_iff, List.contains_iff_mem, List.mem_map]
  constructor
  · rintro ⟨other, hother, hid⟩
    obtain ⟨hmem, htest⟩ := List.mem_filter.mp hother
    rwa [← List.inj_on_of_nodup_map hids hmem hrun hid]
  · intro htest
    exact ⟨run, List.mem_filter.mpr ⟨hrun, htest⟩, rfl⟩

theorem answers_answer (query : Query) (config : EngineConfig) {runs : List Run}
    (hids : (runs.map Run.id).Nodup) : (query.answer config runs).Answers query config runs := by
  have hpassing : query.filters.select runs
      = runs.filter fun run ↦ query.filters.passes Pattern.test? run :=
    Filter.select_eq_filter query.filters runs
  have hnodup : ((query.filters.select runs).map Run.id).Nodup := by
    rw [hpassing]
    exact hids.sublist (List.filter_sublist.map Run.id)
  have hperm := SortOrder.sort_perm query.sort
    ((query.selections.select (query.filters.select runs)).map Run.id) (query.filters.select runs)
  refine ⟨rfl, ?_, ?_, ?_, ?_, ?_, ?_, rfl⟩
  · rw [← hpassing]
    exact hperm
  · -- the ids were taken from the runs before they were sorted
    refine List.filter_congr fun run hrun ↦ ?_
    rw [Filter.select_eq_filter query.selections]
    exact contains_map_id_filter hnodup (hperm.mem_iff.mp hrun)
  · intro name
    exact (Dict.get?_ofList_map Run.name id _ name).trans Option.map_id'
  · exact Dict.get?_ofList_map Run.name Run.id _
  · rw [answer]
    dsimp only
    cases query.page.or config.defaultPageSize with
    | none => exact List.prefix_refl _
    | some size => exact List.take_prefix ..
  · rw [answer]
    dsimp only
    cases query.page.or config.defaultPageSize with
    | none => rfl
    | some size => exact (List.length_take ..).trans (Nat.min_comm ..)

end Query

namespace Pipeline

/-- **The answer to an enabled query**, where no two runs share an id once its payloads are merged,
is a response whose parts agree with each other and with the set of runs. -/
theorem handle_answers (p : Pipeline) {request : Request} {query : Query}
    (hquery : request.query = some query) (henabled : query.disabled = false)
    (hids : ((p.handle request).2.runs.map Run.id).Nodup) :
    ∃ response, (p.handle request).1 = .ok response ∧
      response.Answers query p.config (p.handle request).2.runs := by
  rw [handle_of_enabled p hquery henabled] at hids ⊢
  exact ⟨_, rfl, query.answers_answer p.config hids⟩

/-- Two runs of one name, sorted by whether they are highlighted, with a page of two rows. -/
theorem handle_answers_of_shared_name :
    let payload (id name state : String) : Json :=
      .object [("id", .string id), ("name", .string name), ("state", .string state)]
    let query : Query :=
      { Query.default with
        selections := .compare ⟨.run, "state"⟩ .eq (.string "finished")
        sort := ⟨some SortOrder.selectedName, false⟩
        page := some 2 }
    let request : Request :=
      { Request.ofQuery query with
        rawBatch := [payload "1" "x" "running", payload "2" "x" "finished",
          payload "3" "y" "finished"] }
    let p := new EngineConfig.default
    ((p.handle request).2.runs.map Run.id).Nodup ∧
      ∃ response, (p.handle request).1 = .ok response ∧
        response.Answers query p.config (p.handle request).2.runs ∧
        (response.selected.map Run.id).Perm ["2", "3"] ∧ response.totalRows = 3 ∧
        response.rows.length = 2 := by
  intro payload query request p
  have hids : ((p.handle request).2.runs.map Run.id).Nodup := by decide
  have hquery : request.query = some query := rfl
  obtain ⟨response, hresponse, hanswers⟩ := handle_answers p hquery rfl hids
  have hselected : (response.selected.map Run.id).Perm ["2", "3"] := by
    rw [hanswers.selected]
    exact ((hanswers.filtered.filter _).map Run.id).trans (.of_eq (by decide))
  have htotal : response.totalRows = 3 := by
    have hlength : response.filtered.length = 3 := hanswers.filtered.length_eq.trans (by decide)
    rw [hanswers.totalRows, ← hlength]
    exact List.length_map ..
  refine ⟨hids, response, hresponse, hanswers, hselected, htotal, ?_⟩
  rw [hanswers.length_rows, htotal]
  rfl

end Pipeline

end RunQuery
