import RunQuery.Run.Payload

/-!
# Merging payloads into a set of runs

A set of runs is kept up to date by batches of payloads. A payload replaces the run with its id
where that stands, or is added at the end; runs that no payload mentions stay.

Clients tend to deliver the same payloads again and again, so the batch before is handed in as well:
a payload that is equal to the last one of its identity in that batch is *reused*, that is, skipped,
if its run is there.

An index of the places is kept beside the runs, so that no payload is searched for in the set.
-/

namespace RunQuery

/-- What happened to the payloads of a batch. -/
structure MergeStats where
  /-- Payloads that delivered a run. -/
  normalized : Nat
  /-- Payloads that were skipped. -/
  reused : Nat
  /-- Payloads that are no runs. -/
  dropped : Nat
  /-- Runs that were added. -/
  appended : Nat
  deriving DecidableEq, Repr

namespace MergeStats

/-- Nothing has happened yet. -/
def zero : MergeStats := ⟨0, 0, 0, 0⟩

end MergeStats

namespace Merge

/-- The identity of a payload: its id, or its name where it has none. -/
def identity? (payload : Json) : Option String :=
  ((payload.member? "id").bind Tree.string?).or ((payload.member? "name").bind Tree.string?)

/-- Are two payloads equal? -/
def samePayload (p q : Json) : Bool := Tree.equal Json.Number.equal p q

/-- The payloads of a batch under their identities; of several with one identity, the last. -/
def lastPayloads (batch : List Json) : Dict String Json :=
  Dict.ofList (batch.filterMap fun payload ↦ (identity? payload).map fun id ↦ (id, payload))

/-- The places of runs under their ids; of several with one id, the last. -/
def placesOf (runs : List Run) : Dict String Nat :=
  Dict.ofList (runs.zipIdx.map fun (run, place) ↦ (run.id, place))

/-- A merge under way. -/
structure State where
  /-- The set of runs so far. -/
  runs : List Run
  /-- The index: where the run of an id stands. -/
  places : Dict String Nat
  /-- What has happened so far. -/
  stats : MergeStats

namespace State

/-- The state before the first payload. -/
def start (current : List Run) : State := ⟨current, placesOf current, MergeStats.zero⟩

/-- Is the payload one that the batch before delivered already, and its run there? -/
def skips (earlier : Dict String Json) (s : State) (payload : Json) : Bool :=
  match identity? payload with
  | none => false
  | some id =>
    (s.places.get? id).isSome && (earlier.get? id).any fun last ↦ samePayload last payload

/-- Put a run in the place of its id, or at the end where there is none. -/
def put (s : State) (run : Run) : State :=
  match s.places.get? run.id with
  | some place => { s with runs := s.runs.set place run }
  | none =>
    { runs := s.runs ++ [run]
      places := s.places.insert run.id s.runs.length
      stats := { s.stats with appended := s.stats.appended + 1 } }

/-- Take one payload. -/
def step (earlier : Dict String Json) (s : State) (payload : Json) : State :=
  -- only the batch before is asked, not what this one has done to the run
  if s.skips earlier payload then
    { s with stats := { s.stats with reused := s.stats.reused + 1 } }
  else
    match Run.ofPayload? payload with
    | none => { s with stats := { s.stats with dropped := s.stats.dropped + 1 } }
    | some run =>
      { s with stats := { s.stats with normalized := s.stats.normalized + 1 } }.put run

end State

/-- Merge a batch into a set of runs, given the batch before it. -/
def merge (current : List Run) (previous batch : List Json) : List Run × MergeStats :=
  let s := batch.foldl (State.step (lastPayloads previous)) (State.start current)
  (s.runs, s.stats)

end Merge

end RunQuery
