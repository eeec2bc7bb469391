import RunQuery.Pipeline
import RunQuery.Proofs.Merge.Batch

/-!
# The set of runs over a sequence of requests

Whatever requests a pipeline answers, its set of runs never holds two runs of one id, and a run
that is in it stays in its place until a request brings a set of its own. The set changes in one
step of the pipeline only, the merge, so both facts are those of a merge carried along the
sequence.

## Idle requests

A request without a query is refused, and one with a disabled query is answered by the empty
response. Such a request is *idle*: it leaves the pipeline as it was, so it can be struck from a
sequence, and all other requests get what they got before.
-/

namespace RunQuery

/-- Is the request one that gets its answer without a look at the set of runs? -/
def Request.isIdle (request : Request) : Bool := request.query.all Query.disabled

namespace Pipeline

/-! ## One request -/

theorem handle_of_query_eq_none (p : Pipeline) {request : Request} (h : request.query = none) :
    p.handle request = (.error .missingQuery, p) := by
  rw [handle, h]

theorem handle_of_disabled (p : Pipeline) {request : Request} {query : Query}
    (h : request.query = some query) (hdisabled : query.disabled = true) :
    p.handle request = (.ok Response.empty, p) := by
  simp [handle, h, hdisabled]

theorem handle_of_enabled (p : Pipeline) {request : Request} {query : Query}
    (h : request.query = some query) (henabled : query.disabled = false) :
    p.handle request = (.ok (query.answer p.config (p.runsAfter request query)),
      { p with runs := p.runsAfter request query }) := by
  simp [handle, h, henabled]

/-- The outcomes of a request: the pipeline stays as it was, or the set of runs is the one that an
enabled query leads to. -/
theorem snd_handle_cases (p : Pipeline) (request : Request) :
    (request.isIdle = true ∧ (p.handle request).2 = p) ∨
      ∃ query, request.query = some query ∧ query.disabled = false ∧
        (p.handle request).2 = { p with runs := p.runsAfter request query } := by
  cases hquery : request.query with
  | none =>
    exact .inl ⟨by rw [Request.isIdle, hquery]; rfl, by rw [handle_of_query_eq_none p hquery]⟩
  | some query =>
    cases hdisabled : query.disabled with
    | true =>
      exact .inl ⟨by rw [Request.isIdle, hquery, Option.all_some, hdisabled],
        by rw [handle_of_disabled p hquery hdisabled]⟩
    | false => exact .inr ⟨query, rfl, hdisabled, by rw [handle_of_enabled p hquery hdisabled]⟩

theorem snd_handle_of_isIdle (p : Pipeline) {request : Request} (h : request.isIdle = true) :
    (p.handle request).2 = p := by
  obtain ⟨-, hsame⟩ | ⟨query, hquery, henabled, -⟩ := snd_handle_cases p request
  · exact hsame
  · rw [Request.isIdle, hquery, Option.all_some, henabled] at h
    contradiction

theorem nodup_runsAfter {p : Pipeline} (hids : (p.runs.map Run.id).Nodup) {request : Request}
    (hbase : ∀ base ∈ request.baseRuns, (base.map Run.id).Nodup) (query : Query) :
    ((p.runsAfter request query).map Run.id).Nodup := by
  have hstart : ((request.baseRuns.getD p.runs).map Run.id).Nodup := by
    cases h : request.baseRuns with
    | none => exact hids
    | some base => exact hbase base h
  rw [runsAfter]
  by_cases hreuse : query.reuseBase = true
  · rwa [if_pos hreuse]
  · rw [if_neg hreuse]
    exact Merge.nodup_merge hstart _ _

theorem map_id_prefix_runsAfter (p : Pipeline) {request : Request}
    (hbase : request.baseRuns = none) (query : Query) :
    p.runs.map Run.id <+: (p.runsAfter request query).map Run.id := by
  rw [runsAfter, hbase, Option.getD_none]
  by_cases hreuse : query.reuseBase = true
  · rw [if_pos hreuse]
  · rw [if_neg hreuse]
    exact Merge.map_id_prefix_merge _ _ _

theorem nodup_handle {p : Pipeline} (hids : (p.runs.map Run.id).Nodup) {request : Request}
    (hbase : ∀ base ∈ request.baseRuns, (base.map Run.id).Nodup) :
    ((p.handle request).2.runs.map Run.id).Nodup := by
  obtain ⟨-, hsame⟩ | ⟨query, -, -, hnext⟩ := snd_handle_cases p request
  · rwa [hsame]
  · rw [hnext]
    exact nodup_runsAfter hids hbase query

theorem map_id_prefix_handle (p : Pipeline) {request : Request}
    (hbase : request.baseRuns = none) :
    p.runs.map Run.id <+: (p.handle request).2.runs.map Run.id := by
  obtain ⟨-, hsame⟩ | ⟨query, -, -, hnext⟩ := snd_handle_cases p request
  · rw [hsame]
  · rw [hnext]
    exact map_id_prefix_runsAfter p hbase query

/-! ## A sequence of requests -/

@[simp] theorem handleAll_nil (p : Pipeline) : p.handleAll [] = ([], p) := rfl

@[simp] theorem handleAll_cons (p : Pipeline) (request : Request) (requests : List Request) :
    p.handleAll (request :: requests)
      = ((p.handle request).1 :: ((p.handle request).2.handleAll requests).1,
          ((p.handle request).2.handleAll requests).2) := rfl

@[simp] theorem handleAll_append (p : Pipeline) (before after : List Request) :
    p.handleAll (before ++ after)
      = ((p.handleAll before).1 ++ ((p.handleAll before).2.handleAll after).1,
          ((p.handleAll before).2.handleAll after).2) := by
  induction before generalizing p with
  | nil => simp
  | cons request before ih => simp [ih]

theorem handleAll_concat (p : Pipeline) (requests : List Request) (request : Request) :
    p.handleAll (requests ++ [request])
      = ((p.handleAll requests).1 ++ [((p.handleAll requests).2.handle request).1],
          ((p.handleAll requests).2.handle request).2) := by
  simp

@[simp] theorem length_handleAll (p : Pipeline) (requests : List Request) :
    (p.handleAll requests).1.length = requests.length := by
  induction requests generalizing p with
  | nil => rfl
  | cons request requests ih => simp [ih]

theorem getElem?_handleAll (p : Pipeline) (before after : List Request) (request : Request) :
    (p.handleAll (before ++ request :: after)).1[before.length]?
      = some ((p.handleAll before).2.handle request).1 := by
  simp

theorem nodup_handleAll {p : Pipeline} (hids : (p.runs.map Run.id).Nodup)
    {requests : List Request}
    (hbase : ∀ request ∈ requests, ∀ base ∈ request.baseRuns, (base.map Run.id).Nodup) :
    ((p.handleAll requests).2.runs.map Run.id).Nodup := by
  induction requests generalizing p with
  | nil => exact hids
  | cons request requests ih =>
    obtain ⟨hfirst, hrest⟩ := List.forall_mem_cons.mp hbase
    exact ih (nodup_handle hids hfirst) hrest

/-- Idle requests can be struck from a sequence: the others get the same answers, and the pipeline
ends in the same state. -/
theorem handleAll_filter_not_isIdle (p : Pipeline) (requests : List Request) :
    p.handleAll (requests.filter fun request ↦ !request.isIdle)
      = (((requests.zip (p.handleAll requests).1).filter fun e ↦ !e.1.isIdle).map Prod.snd,
          (p.handleAll requests).2) := by
  induction requests generalizing p with
  | nil => rfl
  | cons request requests ih =>
    cases hidle : request.isIdle with
    | true => simp [hidle, snd_handle_of_isIdle p hidle, ih]
    | false => simp [hidle, ih]

/-! ## The invariant -/

/-- What becomes of the set of runs when a pipeline is given a request. -/
structure KeepsRuns (p : Pipeline) (request : Request) : Prop where
  /-- No two runs share an id. -/
  distinct : ((p.handle request).2.runs.map Run.id).Nodup
  /-- No run is lost or moved, unless the request brings a set of its own. -/
  inPlace : request.baseRuns = none →
    p.runs.map Run.id <+: (p.handle request).2.runs.map Run.id
  /-- A request without a query is refused and changes nothing. -/
  refused : request.query = none → p.handle request = (.error .missingQuery, p)
  /-- A disabled query gets the empty response and changes nothing. -/
  unasked : ∀ query, request.query = some query → query.disabled = true →
    p.handle request = (.ok Response.empty, p)

/-- **The set of runs over a whole sequence.** Every request finds and leaves a set of distinct ids
that only grows at its end, and the idle requests of the sequence might as well not be there. -/
theorem keepsRuns_handleAll (config : EngineConfig) (requests : List Request)
    (hbase : ∀ request ∈ requests, ∀ base ∈ request.baseRuns, (base.map Run.id).Nodup) :
    (∀ before request after, requests = before ++ request :: after →
      ((new config).handleAll requests).1[before.length]?
          = some (((new config).handleAll before).2.handle request).1 ∧
        KeepsRuns ((new config).handleAll before).2 request) ∧
    (new config).handleAll (requests.filter fun request ↦ !request.isIdle)
      = (((requests.zip ((new config).handleAll requests).1).filter
            fun e ↦ !e.1.isIdle).map Prod.snd,
          ((new config).handleAll requests).2) := by
  refine ⟨?_, handleAll_filter_not_isIdle (new config) requests⟩
  rintro before request after rfl
  have hbefore : (((new config).handleAll before).2.runs.map Run.id).Nodup :=
    nodup_handleAll (p := new config) List.nodup_nil fun earlier hearlier ↦
      hbase earlier (List.mem_append_left _ hearlier)
  have hrequest : ∀ base ∈ request.baseRuns, (base.map Run.id).Nodup :=
    hbase request (by simp)
  exact ⟨getElem?_handleAll (new config) before after request,
    { distinct := nodup_handle hbefore hrequest
      inPlace := map_id_prefix_handle _
      refused := handle_of_query_eq_none _
      unasked := fun _ ↦ handle_of_disabled _ }⟩

/-- A set with two ids is handed in, a request without a query comes between, and a payload adds a
third id. -/
theorem keepsRuns_handleAll_of_base_and_payload :
    let base : List Run := [{ (default : Run) with id := "b" }, { (default : Run) with id := "a" }]
    let first : Request := { Request.ofQuery Query.default with baseRuns := some base }
    let last : Request :=
      { Request.ofQuery Query.default with rawBatch := [.object [("name", .string "c")]] }
    let requests := [first, Request.empty, last]
    (∀ request ∈ requests, ∀ base ∈ request.baseRuns, (base.map Run.id).Nodup) ∧
      KeepsRuns ((new EngineConfig.default).handleAll [first, Request.empty]).2 last ∧
      ((new EngineConfig.default).handleAll requests).2.runs.map Run.id = ["b", "a", "c"] := by
  intro base first last requests
  have hbase : ∀ request ∈ requests, ∀ base ∈ request.baseRuns, (base.map Run.id).Nodup := by
    simp [requests, first, last, base, Request.ofQuery, Request.empty]
  exact ⟨hbase,
    ((keepsRuns_handleAll EngineConfig.default requests hbase).1
      [first, Request.empty] last [] rfl).2,
    by decide⟩

end Pipeline

end RunQuery
