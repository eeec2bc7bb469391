import RunQuery.Worker.Basic

/-!
# Clients and the queue of a worker

Any number of clients put requests into the one queue of a worker, and one of them may ask it to
stop. What happens is a sequence of events: a request comes in, the stop comes in, the worker takes
the oldest message. Every order of these is possible.

Requests are told apart by tickets, which are given out as they come in. The worker answers a
request when it takes it. When it takes the stop it closes: all requests still in the queue, and all
that come later, are told so.
-/

namespace RunQuery

/-- What may stand in the queue. -/
inductive Message where
  /-- A request and its ticket. -/
  | request (ticket : Nat) (request : Request)
  /-- The wish that the worker stop. -/
  | stop

/-- What may happen. -/
inductive WorkEvent where
  /-- A client puts a request into the queue. -/
  | submit (request : Request)
  /-- Somebody puts a stop into the queue. -/
  | stop
  /-- The worker takes the oldest message. -/
  | work

/-- A worker with its queue and the answers it has given. -/
structure Workplace where
  /-- The worker. -/
  worker : Worker
  /-- Has it taken a stop? -/
  closed : Bool
  /-- The messages that wait, the oldest first. -/
  queue : List Message
  /-- The next ticket. -/
  nextTicket : Nat
  /-- The answers by ticket, the first one first. -/
  answers : List (Nat × Reply)

namespace Workplace

/-- Before anything has happened. -/
def start (config : EngineConfig) : Workplace := ⟨Worker.new config, false, [], 0, []⟩

/-- What a request is told that is not handled any more. -/
def refusal (ticket : Nat) : Nat × Reply := (ticket, .error .workerClosed)

@[simp] def tickets : List Message → List Nat
  | [] => []
  | .request ticket _ :: queue => ticket :: tickets queue
  | .stop :: queue => tickets queue

/-- The worker takes the oldest message. -/
def work (w : Workplace) : Workplace :=
  match w.queue with
  | [] => w
  | .request ticket request :: queue =>
    let (reply, worker) := w.worker.serve request
    { w with worker, queue, answers := w.answers ++ [(ticket, reply)] }
  -- the requests that wait are answered now; further stops go with the queue
  | .stop :: queue =>
    { w with closed := true, queue := [], answers := w.answers ++ (tickets queue).map refusal }

/-- One event. A closed worker takes nothing and answers at once. -/
def after (w : Workplace) : WorkEvent → Workplace
  | .submit request =>
    let ticket := w.nextTicket
    if w.closed then
      { w with nextTicket := ticket + 1, answers := w.answers ++ [refusal ticket] }
    else { w with nextTicket := ticket + 1, queue := w.queue ++ [.request ticket request] }
  | .stop => if w.closed then w else { w with queue := w.queue ++ [.stop] }
  | .work => if w.closed then w else w.work

/-- A sequence of events. -/
def afterAll (w : Workplace) (events : List WorkEvent) : Workplace := events.foldl after w

end Workplace

end RunQuery
