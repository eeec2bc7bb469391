import RunQuery.Proofs.Merge.Again
import RunQuery.Proofs.Pipeline.RunSet

/-!
# How payloads are delivered

A client may deliver payloads in other portions than they came, and may deliver some of them again.
Two laws say that it is free to do so.

* *Again.* A request that is given a second time gets the same answer, and leaves the set of runs
  alone. This holds of every request and every set, with repeated ids as well.
* *In pieces.* A list of payloads may be cut into batches anywhere, each with a query of its own.
  The last query gets the answer that it would get with the whole list as one batch.

An answer is made from the query and the set of runs, and nothing else is kept from one request to
the next. So both laws are laws of the merge: a batch merged again changes nothing, and batches
merged one after another are one batch.
-/

namespace RunQuery

/-- The request that delivers payloads to be merged, with a question. -/
def Request.delivering (batch : List Json) (query : Query) : Request :=
  { Request.ofQuery query with rawBatch := batch }

namespace Pipeline

/-! ## The same request again -/

theorem runsAfter_runsAfter (p : Pipeline) (request : Request) (query : Query) :
    runsAfter { p with runs := p.runsAfter request query } request query
      = p.runsAfter request query := by
  rw [runsAfter, runsAfter]
  cases hbase : request.baseRuns with
  | some base => rfl
  | none =>
    dsimp only
    rw [Option.getD_none, Option.getD_none]
    by_cases hreuse : query.reuseBase = true
    · rw [if_pos hreuse, if_pos hreuse]
    · rw [if_neg hreuse, if_neg hreuse, Merge.fst_merge_merge]

/-- **A request that is given again** gets the same answer and changes nothing. -/
theorem handle_handle (p : Pipeline) (request : Request) :
    (p.handle request).2.handle request = p.handle request := by
  obtain ⟨-, hsame⟩ | ⟨query, hquery, henabled, hnext⟩ := snd_handle_cases p request
  · rw [hsame]
  · rw [hnext, handle_of_enabled _ hquery henabled, handle_of_enabled p hquery henabled,
      runsAfter_runsAfter]

/-! ## Payloads in pieces -/

theorem handle_delivering (p : Pipeline) (batch : List Json) {query : Query}
    (henabled : query.disabled = false) (hmerges : query.reuseBase = false) :
    p.handle (Request.delivering batch query)
      = (.ok (query.answer p.config (Merge.merge p.runs [] batch).1),
          { p with runs := (Merge.merge p.runs [] batch).1 }) := by
  have hruns : p.runsAfter (Request.delivering batch query) query
      = (Merge.merge p.runs [] batch).1 := by
    rw [runsAfter, hmerges, if_neg Bool.false_ne_true]
    rfl
  rw [← hruns]
  exact handle_of_enabled p rfl henabled

theorem snd_handleAll_delivering (p : Pipeline) {pieces : List (List Json × Query)}
    (hmerging : ∀ piece ∈ pieces, piece.2.disabled = false ∧ piece.2.reuseBase = false) :
    (p.handleAll (pieces.map fun piece ↦ Request.delivering piece.1 piece.2)).2
      = { p with runs := (Merge.merge p.runs [] (pieces.map Prod.fst).flatten).1 } := by
  induction pieces generalizing p with
  | nil => rfl
  | cons piece pieces ih =>
    obtain ⟨⟨henabled, hmerges⟩, hrest⟩ := List.forall_mem_cons.mp hmerging
    simp [handle_delivering p piece.1 henabled hmerges, ih _ hrest,
      Merge.fst_merge_merge_of_append]

/-- **Payloads in pieces.** However a list of payloads is cut into batches, and whatever the queries
between them are, the last query gets the answer that it gets with the whole list as one batch, and
the set of runs is the same. -/
theorem handleAll_pieces_eq_handle (p : Pipeline) {pieces : List (List Json × Query)}
    {payloads : List Json} {query : Query} (hcut : (pieces.map Prod.fst).flatten = payloads)
    (hmerging : ∀ piece ∈ pieces, piece.2.disabled = false ∧ piece.2.reuseBase = false)
    (hlast : (pieces.map Prod.snd).getLast? = some query) :
    (p.handleAll (pieces.map fun piece ↦ Request.delivering piece.1 piece.2)).1.getLast?
        = some (p.handle (Request.delivering payloads query)).1 ∧
      (p.handleAll (pieces.map fun piece ↦ Request.delivering piece.1 piece.2)).2
        = (p.handle (Request.delivering payloads query)).2 := by
  obtain rfl | ⟨front, ⟨batch, asked⟩, rfl⟩ := List.eq_nil_or_concat' pieces
  · cases hlast
  simp only [List.map_append, List.map_singleton, List.getLast?_concat, Option.some_inj,
    List.flatten_append, List.flatten_singleton] at hlast hcut
  subst hlast hcut
  obtain ⟨henabled, hmerges⟩ := hmerging (batch, asked) (by simp)
  have hfront : ∀ piece ∈ front, piece.2.disabled = false ∧ piece.2.reuseBase = false :=
    fun piece hpiece ↦ hmerging piece (List.mem_append_left _ hpiece)
  -- the last piece finds the set that the others have led to
  simp [snd_handleAll_delivering p hfront, handle_delivering _ _ henabled hmerges,
    Merge.fst_merge_merge_of_append]

/-- The cut parts two payloads of one run, and an empty piece comes between them. The queries before
the last one want no rows. -/
theorem handleAll_pieces_eq_handle_of_cut_within_run :
    let payload (name state : String) : Json :=
      .object [("name", .string name), ("state", .string state)]
    let early := { Query.default with page := some 0 }
    let pieces := [([payload "a" "running", payload "b" "running"], early), ([], early),
      ([payload "a" "finished"], Query.default)]
    let payloads := [payload "a" "running", payload "b" "running", payload "a" "finished"]
    let p := new EngineConfig.default
    let requests := pieces.map fun piece ↦ Request.delivering piece.1 piece.2
    let whole := Request.delivering payloads Query.default
    (pieces.map Prod.fst).flatten = payloads ∧
      (∀ piece ∈ pieces, piece.2.disabled = false ∧ piece.2.reuseBase = false) ∧
      (pieces.map Prod.snd).getLast? = some Query.default ∧
      (p.handleAll requests).1.getLast? = some (p.handle whole).1 ∧
      (p.handleAll requests).2 = (p.handle whole).2 ∧
      (p.handleAll requests).2.runs.map (fun run ↦ (run.id, run.state))
        = [("a", .finished), ("b", .running)] := by
  intro payload early pieces payloads p requests whole
  have hmerging : ∀ piece ∈ pieces, piece.2.disabled = false ∧ piece.2.reuseBase = false := by
    simp [pieces, early, Query.default]
  have hcut : (pieces.map Prod.fst).flatten = payloads := rfl
  have hlast : (pieces.map Prod.snd).getLast? = some Query.default := rfl
  obtain ⟨hanswer, hstate⟩ := handleAll_pieces_eq_handle p hcut hmerging hlast
  exact ⟨hcut, hmerging, hlast, hanswer, hstate, by decide⟩

end Pipeline

end RunQuery
