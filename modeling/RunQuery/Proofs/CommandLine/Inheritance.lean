import RunQuery.CommandLine.Program
import RunQuery.Proofs.Merge.Reuse
import RunQuery.Proofs.Pipeline.RunSet

/-!
# Requests that inherit the batch before them

A request of a file that names no previous batch takes the batch of the request before it for its
own, so that payloads which come again are skipped. This is meant to save work and not to be seen in
the answers. It is indeed not seen exactly if every merge *skips safely*: a payload that equals the
inherited one, and is the last of its batch for its run, finds that very run in the set.

## Where it is seen

The batch that is inherited need not be what the set of runs was made of. If the request before had
a disabled query, or one that reuses its set, then its batch was never merged; and within one batch
a payload may replace the run of which a later payload is skipped. In both cases an old run stays
in the place of the one delivered last.
-/

namespace RunQuery

/-- Does the request have its payloads merged? -/
def Request.isMerging (request : Request) : Bool :=
  request.query.any fun query ↦ !query.disabled && !query.reuseBase

/-- The request with another batch before it. -/
def Request.after (request : Request) (previous : List Json) : Request :=
  { request with previousRawBatch := previous }

/-! ## What the batch before a request changes -/

namespace Pipeline

theorem handle_after_of_not_isMerging (p : Pipeline) {request : Request}
    (hmerging : request.isMerging = false) (previous : List Json) :
    p.handle (request.after previous) = p.handle request := by
  rw [handle, handle, Request.after]
  cases hquery : request.query with
  | none => rfl
  | some query =>
    cases hdisabled : query.disabled with
    | true => simp [hdisabled]
    | false =>
      have hreuse : query.reuseBase = true := by
        simpa [Request.isMerging, hquery, hdisabled] using hmerging
      simp [hdisabled, runsAfter, hreuse]

theorem handle_after_of_isMerging (p : Pipeline) {request : Request}
    (hbase : request.baseRuns = none) (hmerging : request.isMerging = true) :
    ∃ query : Query, ∀ previous, p.handle (request.after previous)
      = (.ok (query.answer p.config (Merge.merge p.runs previous request.rawBatch).1),
          { p with runs := (Merge.merge p.runs previous request.rawBatch).1 }) := by
  obtain ⟨query, hquery, henabled⟩ := (Option.any_eq_true _ _).mp hmerging
  rw [Bool.and_eq_true, Bool.not_eq_true', Bool.not_eq_true'] at henabled
  refine ⟨query, fun previous ↦ ?_⟩
  have hruns : p.runsAfter (request.after previous) query
      = (Merge.merge p.runs previous request.rawBatch).1 := by
    simp [runsAfter, Request.after, henabled.2, hbase]
  rw [← hruns]
  exact handle_of_enabled p hquery henabled.1

/-- **The batch before a request is not seen** in its answer exactly if payloads are skipped safely,
and then it is not seen in the next state either. -/
theorem handle_after_eq_iff {p : Pipeline} (hids : (p.runs.map Run.id).Nodup) {request : Request}
    (hbase : request.baseRuns = none) (previous : List Json) :
    ((p.handle (request.after previous)).1 = (p.handle (request.after [])).1
        ↔ (request.isMerging = true → Merge.SkipsSafely previous p.runs request.rawBatch)) ∧
      ((request.isMerging = true → Merge.SkipsSafely previous p.runs request.rawBatch) →
        p.handle (request.after previous) = p.handle (request.after [])) := by
  cases hmerging : request.isMerging with
  | false =>
    rw [handle_after_of_not_isMerging p hmerging, handle_after_of_not_isMerging p hmerging]
    simp
  | true =>
    obtain ⟨query, hquery⟩ := handle_after_of_isMerging p hbase hmerging
    rw [hquery, hquery, ← Merge.merge_eq_merge_nil_iff hids]
    refine ⟨⟨fun h _ ↦ congrArg Response.base (Except.ok.inj h), fun h ↦ ?_⟩, fun h ↦ ?_⟩
    · rw [h rfl]
    · rw [h rfl]

end Pipeline

/-! ## A worker that serves requests in order -/

namespace Worker

theorem serve_eq (w : Worker) (request : Request) :
    w.serve request
      = ((w.pipeline.handle request).1.map fun response ↦ ⟨w.generation + 1, response⟩,
          ⟨(w.pipeline.handle request).2, w.generation + 1⟩) := rfl

@[simp] theorem serveAll_nil (w : Worker) : w.serveAll [] = ([], w) := rfl

@[simp] theorem serveAll_cons (w : Worker) (request : Request) (requests : List Request) :
    w.serveAll (request :: requests)
      = ((w.serve request).1 :: ((w.serve request).2.serveAll requests).1,
          ((w.serve request).2.serveAll requests).2) := rfl

@[simp] theorem fst_serve_eq_iff (w : Worker) (request other : Request) :
    (w.serve request).1 = (w.serve other).1
      ↔ (w.pipeline.handle request).1 = (w.pipeline.handle other).1 := by
  rw [serve_eq, serve_eq]
  constructor
  · intro h
    cases hrequest : (w.pipeline.handle request).1 <;>
      cases hother : (w.pipeline.handle other).1 <;>
      simp_all [Except.map]
  · intro h
    rw [h]

end Worker

namespace CommandLine

private theorem forall_place_cons_iff {α : Type} {P : List α → α → Prop} {x : α} {xs : List α} :
    (∀ before y after, x :: xs = before ++ y :: after → P before y)
      ↔ P [] x ∧ ∀ before y after, xs = before ++ y :: after → P (x :: before) y := by
  constructor
  · intro h
    refine ⟨h [] x xs rfl, fun before y after hxs ↦ h (x :: before) y after ?_⟩
    rw [hxs, List.cons_append]
  · rintro ⟨hfirst, hrest⟩ before y after hxs
    cases before with
    | nil =>
      obtain ⟨rfl, -⟩ := List.cons.inj hxs
      exact hfirst
    | cons z before =>
      obtain ⟨rfl, htail⟩ := List.cons.inj hxs
      exact hrest before y after htail

/-- The batch that a request inherits from the requests before it. -/
def inherited (previous : List Json) (before : List Request) : List Json :=
  (before.getLast?.map Request.rawBatch).getD previous

@[simp] theorem inherited_nil (previous : List Json) : inherited previous [] = previous := rfl

@[simp] theorem inherited_concat (previous : List Json) (before : List Request)
    (request : Request) : inherited previous (before ++ [request]) = request.rawBatch := by
  rw [inherited, List.getLast?_concat]
  rfl

@[simp] theorem inherited_cons (previous : List Json) (request : Request)
    (before : List Request) :
    inherited previous (request :: before) = inherited request.rawBatch before := by
  rw [inherited, inherited, List.getLast?_cons]
  cases before.getLast? with
  | none => rfl
  | some last => rfl

theorem after_nil {request : Request} (hplain : request.previousRawBatch = []) :
    request.after [] = request := by
  rw [Request.after, ← hplain]

theorem inheritBatches_cons {request : Request} (hplain : request.previousRawBatch = [])
    (previous : List Json) (requests : List Request) :
    inheritBatches previous (request :: requests)
      = request.after previous :: inheritBatches request.rawBatch requests := by
  rw [inheritBatches, hplain]
  rfl

/-- The induction along the requests, for a worker that has served some already. -/
theorem serveAll_inheritBatches_eq_iff {w : Worker} (hids : (w.pipeline.runs.map Run.id).Nodup)
    (previous : List Json) {requests : List Request}
    (hplain : ∀ request ∈ requests, request.previousRawBatch = [] ∧ request.baseRuns = none) :
    (w.serveAll (inheritBatches previous requests)).1 = (w.serveAll requests).1
      ↔ ∀ before request after, requests = before ++ request :: after →
          request.isMerging = true →
          Merge.SkipsSafely (inherited previous before) (w.serveAll before).2.pipeline.runs
            request.rawBatch := by
  induction requests generalizing w previous with
  | nil => simp [inheritBatches]
  | cons request requests ih =>
    obtain ⟨⟨hprevious, hbase⟩, hrest⟩ := List.forall_mem_cons.mp hplain
    obtain ⟨hanswer, hstate⟩ := Pipeline.handle_after_eq_iff hids hbase previous
    rw [after_nil hprevious] at hanswer hstate
    rw [inheritBatches_cons hprevious, forall_place_cons_iff]
    simp only [Worker.serveAll_nil, Worker.serveAll_cons, List.cons.injEq, Worker.fst_serve_eq_iff,
      hanswer, inherited_nil, inherited_cons]
    refine and_congr_right fun hsafe ↦ ?_
    -- the first request is safe, so both workers go on from one state
    have hnext : w.serve (request.after previous) = w.serve request := by
      rw [Worker.serve_eq, Worker.serve_eq, hstate hsafe]
    have hnextIds : ((w.serve request).2.pipeline.runs.map Run.id).Nodup :=
      Pipeline.nodup_handle hids (by simp [hbase])
    rw [hnext, ih hnextIds request.rawBatch hrest]

/-- **Inheritance is not seen in the answers** exactly if every merge of an inherited batch skips
safely, the sets of runs being those of a worker to which nothing is inherited. -/
theorem serveAll_inheritBatches_eq_serveAll_iff (config : EngineConfig) (requests : List Request)
    (hplain : ∀ request ∈ requests, request.previousRawBatch = [] ∧ request.baseRuns = none) :
    ((Worker.new config).serveAll (inheritBatches [] requests)).1
        = ((Worker.new config).serveAll requests).1
      ↔ ∀ before first second after, requests = before ++ first :: second :: after →
          second.isMerging = true →
          Merge.SkipsSafely first.rawBatch
            ((Worker.new config).serveAll (before ++ [first])).2.pipeline.runs
            second.rawBatch := by
  have hids : ((Worker.new config).pipeline.runs.map Run.id).Nodup := List.nodup_nil
  rw [serveAll_inheritBatches_eq_iff hids [] hplain]
  constructor
  · intro h before first second after hrequests hmerging
    have hsafe := h (before ++ [first]) second after (by rw [hrequests]; simp) hmerging
    rwa [inherited_concat] at hsafe
  · intro h before request after hrequests hmerging
    obtain rfl | ⟨before, first, rfl⟩ := List.eq_nil_or_concat' before
    · exact Merge.skipsSafely_nil _ _
    · rw [inherited_concat]
      exact h before first request after (by rw [hrequests]; simp) hmerging

/-- A batch that comes a second time is skipped, and nobody can tell. -/
theorem serveAll_inheritBatches_of_repeated_batch :
    let payload : Json := .object [("name", .string "a"), ("state", .string "running")]
    let request := { Request.ofQuery Query.default with rawBatch := [payload] }
    let requests := [request, request]
    (∀ request ∈ requests, request.previousRawBatch = [] ∧ request.baseRuns = none) ∧
      (Merge.merge ((Worker.new EngineConfig.default).serveAll [request]).2.pipeline.runs
        [payload] [payload]).2 = ⟨0, 1, 0, 0⟩ ∧
      ((Worker.new EngineConfig.default).serveAll (inheritBatches [] requests)).1
        = ((Worker.new EngineConfig.default).serveAll requests).1 := by
  intro payload request requests
  have hplain : ∀ request ∈ requests,
      request.previousRawBatch = [] ∧ request.baseRuns = none := by
    simp [requests, request, Request.ofQuery, Request.empty]
  refine ⟨hplain, by decide,
    (serveAll_inheritBatches_eq_serveAll_iff EngineConfig.default requests hplain).mpr ?_⟩
  intro before first second after hrequests _
  cases before with
  | nil =>
    obtain ⟨hfirst, hrest⟩ := List.cons.inj hrequests
    obtain ⟨hsecond, -⟩ := List.cons.inj hrest
    rw [← hfirst, ← hsecond]
    have hruns : ((Worker.new EngineConfig.default).serveAll [request]).2.pipeline.runs
        = (Merge.merge [] [] [payload]).1 := rfl
    refine (Merge.merge_eq_merge_nil_iff (by decide) _ _).mp ?_
    rw [List.nil_append, hruns, Merge.fst_merge, Merge.fst_merge, Merge.fst_merge]
    rfl
  | cons _ before =>
    have hlength := congrArg List.length hrequests
    simp only [requests, List.length_append, List.length_cons, List.length_nil] at hlength
    omega

/-- The states of the runs that a reply shows. -/
private def shownStates (reply : Reply) : List RunState :=
  match reply with
  | .ok t => t.response.base.map Run.state
  | .error _ => []

/-- **Inheritance is seen** when the request between had a disabled query: its batch was recorded
and never merged, so the payload that comes again is skipped and the old run stays. -/
theorem serveAll_inheritBatches_ne_of_disabled_between :
    ¬ ∀ (config : EngineConfig) (requests : List Request),
      (∀ request ∈ requests, request.query.isSome = true ∧
        request.previousRawBatch = [] ∧ request.baseRuns = none) →
      ((Worker.new config).serveAll (inheritBatches [] requests)).1
        = ((Worker.new config).serveAll requests).1 := by
  intro h
  let payload (state : String) : Json := .object [("name", .string "a"), ("state", .string state)]
  have hreplies := h EngineConfig.default
    [{ Request.ofQuery Query.default with rawBatch := [payload "running"] },
      { Request.ofQuery Query.nothing with rawBatch := [payload "finished"] },
      { Request.ofQuery Query.default with rawBatch := [payload "finished"] }]
    (by simp [Request.ofQuery, Request.empty])
  have hshown := congrArg (List.map shownStates) hreplies
  exact absurd hshown (by decide)

end CommandLine

end RunQuery
