import RunQuery.Pipeline

/-!
# The worker

A worker owns a pipeline and answers requests in the order of its queue. Each request that it takes
gets the next *generation*, whether it is answered or refused, and the answer carries it.

A client that asks faster than it is answered keeps only the newest answer: `LatestResponse` takes
an answer if its generation is greater than that of the one it holds.
-/

namespace RunQuery

/-- A response with the generation of its request. -/
structure TaggedResponse where
  /-- The generation. -/
  generation : Nat
  /-- The response. -/
  response : Response

namespace TaggedResponse

def toJson (t : TaggedResponse) : Json :=
  .object (("generation", Json.ofCount t.generation) :: t.response.toMembers)

end TaggedResponse

/-- What a request gets. -/
abbrev Reply := Except RequestError TaggedResponse

/-- A pipeline and the number of requests it has taken. -/
structure Worker where
  /-- The pipeline. -/
  pipeline : Pipeline
  /-- The generation of the last request. -/
  generation : Nat

namespace Worker

/-- A worker that has taken no request. -/
def new (config : EngineConfig) : Worker := ⟨Pipeline.new config, 0⟩

/-- Take the next request. -/
def serve (w : Worker) (request : Request) : Reply × Worker :=
  let (result, pipeline) := w.pipeline.handle request
  let generation := w.generation + 1
  (result.map fun response ↦ ⟨generation, response⟩, ⟨pipeline, generation⟩)

/-- Take requests one after another. -/
def serveAll : Worker → List Request → List Reply × Worker
  | w, [] => ([], w)
  | w, request :: requests =>
    let (reply, w) := w.serve request
    let (replies, w) := w.serveAll requests
    (reply :: replies, w)

end Worker

/-- The newest response so far. -/
structure LatestResponse where
  /-- Its generation; 0 before there is one. -/
  generation : Nat
  /-- The response. -/
  response : Option Response

namespace LatestResponse

/-- Before the first response. -/
def none : LatestResponse := ⟨0, Option.none⟩

/-- Take a response if it is newer. The first component says whether it was. -/
def offer (l : LatestResponse) (t : TaggedResponse) : Bool × LatestResponse :=
  if t.generation ≤ l.generation then (false, l) else (true, ⟨t.generation, some t.response⟩)

end LatestResponse

end RunQuery
