import RunQuery.Proofs.Pipeline.RunSet
import RunQuery.Worker.Queue

/-!
# Every request is answered once

Clients put their requests into the queue of a worker at any time, and at some time somebody asks
the worker to stop. In whatever order this happens, and whenever the worker gets to take a message,
each request gets one answer. A request that came in before the stop gets the answer that it would
get from a pipeline alone with the requests before it, and the number of its place among them; one
that came in after the stop is refused, and no pipeline ever sees it.

## The log

Nothing is lost between a client and the worker, so at any time the messages that were put into the
queue are those that the worker has taken, followed by those that wait. The worker has only taken
requests until it takes a stop, and then it takes nothing more. This is the invariant `Log`: all
else is read off the list of messages, in which every ticket has its place.
-/

namespace RunQuery

namespace WorkEvent

/-- The request that comes in. -/
def request? : WorkEvent → Option Request
  | submit request => some request
  | stop => none
  | work => none

/-- Is the worker asked to stop? -/
def isStop : WorkEvent → Bool
  | stop => true
  | _ => false

/-- Does the worker take a message? -/
def isWork : WorkEvent → Bool
  | work => true
  | _ => false

end WorkEvent

def Message.isStop : Message → Bool
  | .request _ _ => false
  | .stop => true

namespace Workplace

/-! ## Messages -/

/-- The requests that come in. The ticket of each is its place among them. -/
def arrivals (events : List WorkEvent) : List Request := events.filterMap WorkEvent.request?

/-- The requests that come in before the worker is asked to stop. -/
def inTime (events : List WorkEvent) : List Request :=
  arrivals (events.takeWhile fun event ↦ !event.isStop)

/-- The messages that are put into the queue, the first ticket being `first`. -/
@[simp] def messages (first : Nat) : List WorkEvent → List Message
  | [] => []
  | .submit request :: events => .request first request :: messages (first + 1) events
  | .stop :: events => .stop :: messages first events
  | .work :: events => messages first events

@[simp] theorem arrivals_nil : arrivals [] = [] := rfl

@[simp] theorem arrivals_cons (event : WorkEvent) (events : List WorkEvent) :
    arrivals (event :: events) = event.request?.toList ++ arrivals events := by
  cases h : event.request? <;> simp [arrivals, h]

@[simp] theorem arrivals_append (before after : List WorkEvent) :
    arrivals (before ++ after) = arrivals before ++ arrivals after :=
  List.filterMap_append ..

@[simp] theorem messages_append (first : Nat) (before after : List WorkEvent) :
    messages first (before ++ after)
      = messages first before ++ messages (first + (arrivals before).length) after := by
  induction before generalizing first with
  | nil => rfl
  | cons event before ih =>
    cases event with
    | submit request =>
      have hnext : first + (arrivals (.submit request :: before)).length
          = first + 1 + (arrivals before).length := by
        simp [WorkEvent.request?]
        omega
      rw [List.cons_append, messages, messages, ih, hnext, List.cons_append]
    | stop => simp [WorkEvent.request?, ih]
    | work => simp [WorkEvent.request?, ih]

/-- The messages of the requests in a list, their tickets being their places. -/
def numbered (requests : List Request) : List Message := requests.mapIdx Message.request

@[simp] theorem tickets_append (front back : List Message) :
    tickets (front ++ back) = tickets front ++ tickets back := by
  induction front with
  | nil => rfl
  | cons message front ih =>
    cases message with
    | request ticket request => simp [ih]
    | stop => simp [ih]

@[simp] theorem tickets_messages (first : Nat) (events : List WorkEvent) :
    tickets (messages first events) = List.range' first (arrivals events).length := by
  induction events generalizing first with
  | nil => rfl
  | cons event events ih =>
    cases event with
    | submit request => simp [WorkEvent.request?, ih, List.range'_succ]
    | stop => simp [WorkEvent.request?, ih]
    | work => simp [WorkEvent.request?, ih]

@[simp] theorem numbered_concat (requests : List Request) (request : Request) :
    numbered (requests ++ [request]) = numbered requests ++ [.request requests.length request] :=
  List.mapIdx_concat

@[simp] theorem tickets_numbered (requests : List Request) :
    tickets (numbered requests) = List.range' 0 requests.length := by
  induction requests using List.reverseRecOn with
  | nil => rfl
  | append_singleton requests request ih =>
    simp [ih, List.range'_1_concat]

theorem ticket_eq_length {events : List WorkEvent} {requests : List Request} {ticket : Nat}
    {request : Request} {rest : List Message}
    (h : messages 0 events = numbered requests ++ .request ticket request :: rest) :
    ticket = requests.length := by
  have htickets : List.range' 0 (arrivals events).length
      = List.range' 0 requests.length ++ ticket :: tickets rest := by
    rw [← tickets_messages, h]
    simp
  have hplace : (List.range' 0 (arrivals events).length)[requests.length]? = some ticket := by
    simp [htickets]
  obtain ⟨_, hvalue⟩ := List.getElem?_eq_some_iff.mp hplace
  simpa using hvalue.symm

/-! ## The log -/

/-- The answers to requests that a pipeline gets alone, by ticket. -/
def replies (config : EngineConfig) (requests : List Request) : List (Nat × Reply) :=
  ((Pipeline.new config).handleAll requests).1.mapIdx fun ticket result ↦
    (ticket, result.map fun response ↦ ⟨ticket + 1, response⟩)

def workerAfter (config : EngineConfig) (requests : List Request) : Worker :=
  ⟨((Pipeline.new config).handleAll requests).2, requests.length⟩

/-- What holds after some events. -/
inductive Log (config : EngineConfig) (events : List WorkEvent) : Workplace → Prop
  /-- The worker has taken requests, and the other messages wait. -/
  | working (taken : List Request) (queue : List Message)
    (h : messages 0 events = numbered taken ++ queue) :
    Log config events
      ⟨workerAfter config taken, false, queue, (arrivals events).length, replies config taken⟩
  /-- The worker has taken requests and then a stop, and the other messages are refused. -/
  | closed (taken : List Request) (refused : List Message)
    (h : messages 0 events = numbered taken ++ .stop :: refused) :
    Log config events
      ⟨workerAfter config taken, true, [], (arrivals events).length,
        replies config taken ++ (tickets refused).map refusal⟩

@[simp] theorem replies_concat (config : EngineConfig) (requests : List Request)
    (request : Request) :
    replies config (requests ++ [request])
      = replies config requests
        ++ [(requests.length, ((workerAfter config requests).serve request).1)] := by
  rw [replies, Pipeline.handleAll_concat, List.mapIdx_concat, Pipeline.length_handleAll]
  rfl

@[simp] theorem workerAfter_concat (config : EngineConfig) (requests : List Request)
    (request : Request) :
    workerAfter config (requests ++ [request])
      = ((workerAfter config requests).serve request).2 := by
  rw [workerAfter, Pipeline.handleAll_concat, List.length_append]
  rfl

/-- **One event** is written to the log. -/
theorem Log.after {config : EngineConfig} {events : List WorkEvent} {w : Workplace}
    (hlog : Log config events w) (event : WorkEvent) :
    Log config (events ++ [event]) (w.after event) := by
  -- the list of messages grows at its end, by one message at most
  have hmessages := messages_append 0 events [event]
  have harrivals := congrArg List.length (arrivals_append events [event])
  rw [List.length_append] at harrivals
  cases hlog with
  | working taken queue h =>
    rw [h, List.append_assoc, Nat.zero_add] at hmessages
    cases event with
    | submit request =>
      have hnext : Log config _ _ := .working taken _ hmessages
      rwa [harrivals] at hnext
    | stop =>
      have hnext : Log config _ _ := .working taken _ hmessages
      rwa [harrivals] at hnext
    | work =>
      cases queue with
      | nil =>
        have hnext : Log config _ _ := .working taken _ hmessages
        rwa [harrivals] at hnext
      | cons message queue =>
        cases message with
        | request ticket request =>
          -- the worker counts as it goes, and the tickets were counted as they were given out
          obtain rfl := ticket_eq_length h
          have hsplit : messages 0 (events ++ [.work])
              = numbered (taken ++ [request]) ++ queue := by
            rw [hmessages, numbered_concat, List.append_assoc]
            exact congrArg _ (List.append_nil _)
          have hnext : Log config _ _ := .working (taken ++ [request]) queue hsplit
          rwa [harrivals, workerAfter_concat, replies_concat] at hnext
        | stop =>
          have hsplit : messages 0 (events ++ [.work]) = numbered taken ++ .stop :: queue := by
            rw [hmessages]
            exact congrArg _ (List.append_nil _)
          have hnext : Log config _ _ := .closed taken queue hsplit
          rwa [harrivals] at hnext
  | closed taken refused h =>
    rw [h, List.append_assoc, List.cons_append, Nat.zero_add] at hmessages
    -- nothing is left to take, and a request that comes in is refused at once
    have hnext : Log config _ _ := .closed taken _ hmessages
    rw [harrivals, tickets_append, List.map_append, ← List.append_assoc] at hnext
    cases event with
    | submit request => exact hnext
    | stop =>
      have hnone : tickets (messages (arrivals events).length [.stop]) = [] := rfl
      rwa [hnone, List.map_nil, List.append_nil] at hnext
    | work =>
      have hnone : tickets (messages (arrivals events).length [.work]) = [] := rfl
      rwa [hnone, List.map_nil, List.append_nil] at hnext

@[simp] theorem afterAll_nil (w : Workplace) : w.afterAll [] = w := rfl

@[simp] theorem afterAll_append (w : Workplace) (before after : List WorkEvent) :
    w.afterAll (before ++ after) = (w.afterAll before).afterAll after :=
  List.foldl_append ..

@[simp] theorem afterAll_cons (w : Workplace) (event : WorkEvent) (events : List WorkEvent) :
    w.afterAll (event :: events) = (w.after event).afterAll events := rfl

theorem log_afterAll (config : EngineConfig) (events : List WorkEvent) :
    Log config events ((start config).afterAll events) := by
  induction events using List.reverseRecOn with
  | nil => exact .working [] [] rfl
  | append_singleton events event ih => simpa using ih.after event

/-! ## Tickets -/

@[simp] theorem map_fst_replies (config : EngineConfig) (taken : List Request) :
    (replies config taken).map Prod.fst = tickets (numbered taken) := by
  induction taken using List.reverseRecOn with
  | nil => rfl
  | append_singleton taken request ih =>
    rw [replies_concat, numbered_concat, List.map_append, ih, tickets_append]
    rfl

theorem map_fst_refusal (waiting : List Nat) : (waiting.map refusal).map Prod.fst = waiting := by
  rw [List.map_map]
  exact List.map_id' waiting

/-- **Every ticket is answered or waits**, and none of them twice. -/
theorem Log.tickets_eq {config : EngineConfig} {events : List WorkEvent} {w : Workplace}
    (hlog : Log config events w) :
    w.answers.map Prod.fst ++ tickets w.queue = List.range (arrivals events).length := by
  rw [List.range_eq_range', ← tickets_messages]
  cases hlog with
  | working taken queue h => rw [map_fst_replies, h, tickets_append]
  | closed taken refused h =>
    rw [List.map_append, map_fst_replies, map_fst_refusal, h]
    simp

/-- The answers to a ticket. -/
def answersTo (answers : List (Nat × Reply)) (ticket : Nat) : List Reply :=
  (answers.filter fun answer ↦ answer.1 = ticket).map Prod.snd

theorem answersTo_eq_nil {answers : List (Nat × Reply)} {ticket : Nat}
    (h : ticket ∉ answers.map Prod.fst) : answersTo answers ticket = [] := by
  rw [answersTo, List.map_eq_nil_iff, List.filter_eq_nil_iff]
  intro answer hmem
  rw [decide_eq_true_eq]
  rintro rfl
  exact h (List.mem_map_of_mem hmem)

theorem answersTo_eq_singleton {answers : List (Nat × Reply)} {ticket : Nat} {reply : Reply}
    (hnodup : (answers.map Prod.fst).Nodup) (hmem : (ticket, reply) ∈ answers) :
    answersTo answers ticket = [reply] := by
  obtain ⟨front, back, rfl⟩ := List.append_of_mem hmem
  rw [List.map_append, List.map_cons, List.nodup_middle, List.nodup_cons, List.mem_append] at hnodup
  obtain ⟨hother, -⟩ := hnodup
  have hfront := answersTo_eq_nil fun h ↦ hother (.inl h)
  have hback := answersTo_eq_nil fun h ↦ hother (.inr h)
  rw [answersTo] at hfront hback ⊢
  rw [List.filter_append, List.map_append, hfront, List.filter_cons_of_pos (by simp), List.map_cons,
    hback, List.nil_append]

/-! ## Requests and their answers -/

/-- The answer that is due to a request, `before` being what has happened when it comes in. -/
def due (config : EngineConfig) (before : List WorkEvent) (request : Request) : Reply :=
  if before.any WorkEvent.isStop then .error .workerClosed
  else (((Pipeline.new config).handleAll (arrivals before)).2.handle request).1.map
    fun response ↦ ⟨(arrivals before).length + 1, response⟩

def requests (messages : List Message) : List Request :=
  messages.filterMap fun
    | .request _ request => some request
    | .stop => none

@[simp] theorem requests_append (front back : List Message) :
    requests (front ++ back) = requests front ++ requests back :=
  List.filterMap_append ..

@[simp] theorem requests_messages (first : Nat) (events : List WorkEvent) :
    requests (messages first events) = arrivals events := by
  induction events generalizing first with
  | nil => rfl
  | cons event events ih =>
    cases event with
    | submit request => exact congrArg (request :: ·) (ih (first + 1))
    | stop => exact ih first
    | work => exact ih first

@[simp] theorem requests_numbered (taken : List Request) : requests (numbered taken) = taken := by
  induction taken using List.reverseRecOn with
  | nil => rfl
  | append_singleton taken request ih =>
    rw [numbered_concat, requests_append, ih]
    rfl

theorem stop_not_mem_numbered (taken : List Request) : .stop ∉ numbered taken := by
  rw [numbered, List.mem_mapIdx]
  rintro ⟨_, _, h⟩
  cases h

theorem any_isStop_iff (first : Nat) (events : List WorkEvent) :
    events.any WorkEvent.isStop = true ↔ .stop ∈ messages first events := by
  induction events generalizing first with
  | nil => simp [messages]
  | cons event events ih =>
    cases event with
    | submit request => simp [messages, WorkEvent.isStop, ← ih (first + 1)]
    | stop => simp [messages, WorkEvent.isStop]
    | work => simp [messages, WorkEvent.isStop, ← ih first]

/-- A request is among those that the worker has taken, and then there was no stop before it, or it
is behind them. -/
theorem place_cases {before : List WorkEvent} {taken : List Request} {behind rest : List Message}
    {ticket : Nat} {request : Request}
    (h : messages 0 before ++ .request ticket request :: behind = numbered taken ++ rest) :
    ((∃ later, taken = arrivals before ++ request :: later) ∧ .stop ∉ messages 0 before) ∨
      ∃ ahead, messages 0 before = numbered taken ++ ahead ∧
        rest = ahead ++ .request ticket request :: behind := by
  obtain ⟨front, htaken, hrest⟩ | ⟨ahead, hbefore, hrest⟩ := List.append_eq_append_iff.mp h
  · cases front with
    | nil => exact .inr ⟨[], by rw [htaken, List.append_nil, List.append_nil], hrest.symm⟩
    | cons message front =>
      obtain ⟨rfl, -⟩ := List.cons.inj hrest
      refine .inl ⟨⟨requests front, ?_⟩, fun hstop ↦ ?_⟩
      · rw [← requests_numbered taken, htaken, requests_append, requests_messages]
        rfl
      · exact stop_not_mem_numbered taken (htaken ▸ List.mem_append_left _ hstop)
  · exact .inr ⟨ahead, hbefore, hrest⟩

theorem mem_replies (config : EngineConfig) (earlier later : List Request) (request : Request) :
    (earlier.length, ((workerAfter config earlier).serve request).1)
      ∈ replies config (earlier ++ request :: later) := by
  induction later using List.reverseRecOn with
  | nil => simp
  | append_singleton later last ih =>
    rw [← List.cons_append, ← List.append_assoc, replies_concat]
    exact List.mem_append_left _ ih

theorem due_of_stop_not_mem (config : EngineConfig) {before : List WorkEvent} (request : Request)
    (h : .stop ∉ messages 0 before) :
    due config before request = ((workerAfter config (arrivals before)).serve request).1 := by
  rw [due, if_neg fun hstop ↦ h ((any_isStop_iff 0 before).mp hstop)]
  rfl

theorem due_of_stop_mem (config : EngineConfig) {before : List WorkEvent} (request : Request)
    (h : .stop ∈ messages 0 before) : due config before request = .error .workerClosed := by
  rw [due, if_pos ((any_isStop_iff 0 before).mpr h)]

theorem mem_tickets_append_request (ahead behind : List Message) (ticket : Nat)
    (request : Request) : ticket ∈ tickets (ahead ++ .request ticket request :: behind) := by
  simp

theorem Log.mem_answers {config : EngineConfig} {before after : List WorkEvent} {request : Request}
    {w : Workplace} (hlog : Log config (before ++ .submit request :: after) w)
    (hwaits : (arrivals before).length ∉ tickets w.queue) :
    ((arrivals before).length, due config before request) ∈ w.answers := by
  have hmessages : messages 0 (before ++ .submit request :: after)
      = messages 0 before ++ .request (arrivals before).length request
          :: messages ((arrivals before).length + 1) after := by
    simp
  cases hlog with
  | working taken queue h =>
    obtain ⟨⟨later, rfl⟩, hstop⟩ | ⟨ahead, -, rfl⟩ := place_cases (hmessages.symm.trans h)
    · rw [due_of_stop_not_mem config request hstop]
      exact mem_replies config (arrivals before) later request
    · exact absurd (mem_tickets_append_request ..) hwaits
  | closed taken refused h =>
    obtain ⟨⟨later, rfl⟩, hstop⟩ | ⟨ahead, hbefore, hrest⟩ := place_cases (hmessages.symm.trans h)
    · rw [due_of_stop_not_mem config request hstop]
      exact List.mem_append_left _ (mem_replies config (arrivals before) later request)
    · -- what stands before the request behind the taken ones begins with the stop
      cases ahead with
      | nil => cases hrest
      | cons message ahead =>
        obtain ⟨rfl, rfl⟩ := List.cons.inj hrest
        rw [due_of_stop_mem config request (hbefore ▸ List.mem_append_right _ List.mem_cons_self)]
        exact List.mem_append_right _ (List.mem_map_of_mem (mem_tickets_append_request ..))

/-- A request has one answer, which is due to it, or waits and has none. -/
theorem Log.answersTo_eq {config : EngineConfig} {before after : List WorkEvent} {request : Request}
    {w : Workplace} (hlog : Log config (before ++ .submit request :: after) w) :
    answersTo w.answers (arrivals before).length
      = if (arrivals before).length ∈ tickets w.queue then [] else [due config before request] := by
  have hnodup := List.nodup_range (n := (arrivals (before ++ .submit request :: after)).length)
  rw [← hlog.tickets_eq] at hnodup
  split
  · next hwaits =>
    exact answersTo_eq_nil fun hanswered ↦ List.disjoint_of_nodup_append hnodup hanswered hwaits
  · next hwaits => exact answersTo_eq_singleton hnodup.of_append_left (hlog.mem_answers hwaits)

/-- The requests before the first stop are those that come in before somebody asks for it. -/
theorem requests_takeWhile_messages (first : Nat) (events : List WorkEvent) :
    requests ((messages first events).takeWhile fun message ↦ !message.isStop) = inTime events := by
  induction events generalizing first with
  | nil => rfl
  | cons event events ih =>
    cases event with
    | submit request => exact congrArg (request :: ·) (ih (first + 1))
    | stop => rfl
    | work => exact ih first

theorem Log.worker_eq {config : EngineConfig} {events : List WorkEvent} {w : Workplace}
    (hlog : Log config events w) :
    w.worker = workerAfter config ((inTime events).take w.worker.generation) := by
  have htaken : ∀ {taken : List Request} {rest : List Message},
      messages 0 events = numbered taken ++ rest → (inTime events).take taken.length = taken := by
    intro taken rest h
    have hnone : ∀ message ∈ numbered taken, (!message.isStop) = true := by
      intro message hmem
      cases message with
      | request ticket request => rfl
      | stop => exact absurd hmem (stop_not_mem_numbered taken)
    rw [← requests_takeWhile_messages 0, h, List.takeWhile_append_of_pos hnone, requests_append,
      requests_numbered, List.take_left]
  cases hlog with
  | working taken queue h => exact congrArg (workerAfter config) (htaken h).symm
  | closed taken refused h => exact congrArg (workerAfter config) (htaken h).symm

/-! ## Progress -/

theorem not_mem_tickets_drop_concat {ticket place : Nat} {queue : List Message} {message : Message}
    (hplace : ticket ∉ tickets (queue.drop place)) (hnew : ticket ∉ tickets [message]) :
    ticket ∉ tickets ((queue ++ [message]).drop place) := by
  rw [List.drop_append, tickets_append, List.mem_append]
  rintro (hold | hlast)
  · exact hplace hold
  · cases h : place - queue.length with
    | zero => exact hnew (by rwa [h, List.drop_zero] at hlast)
    | succ n => simp [h, tickets] at hlast

/-- A message that is among the first in the queue is taken when as many have been taken. -/
theorem not_mem_tickets_afterAll {w : Workplace} {ticket place : Nat} {events : List WorkEvent}
    (hclosed : w.closed = true → w.queue = []) (hgiven : ticket < w.nextTicket)
    (hplace : ticket ∉ tickets (w.queue.drop place))
    (hwork : place ≤ events.countP WorkEvent.isWork) :
    ticket ∉ tickets (w.afterAll events).queue := by
  -- a message that comes in goes to the end of the queue, and each one that is taken makes the
  -- place smaller by one
  induction events generalizing w place with
  | nil =>
    obtain rfl : place = 0 := by simpa using hwork
    exact hplace
  | cons event events ih =>
    rw [afterAll_cons]
    have hnothing : ticket ∉ tickets (([] : List Message).drop 0) := List.not_mem_nil
    obtain ⟨worker, closed, queue, nextTicket, answers⟩ := w
    dsimp only at hclosed hgiven hplace
    cases closed with
    | true =>
      obtain rfl := hclosed rfl
      cases event with
      | submit request => exact ih (fun _ ↦ rfl) (Nat.lt_succ_of_lt hgiven) hnothing (Nat.zero_le _)
      | stop => exact ih (fun _ ↦ rfl) hgiven hnothing (Nat.zero_le _)
      | work => exact ih (fun _ ↦ rfl) hgiven hnothing (Nat.zero_le _)
    | false =>
      cases event with
      | submit request =>
        refine ih nofun (Nat.lt_succ_of_lt hgiven) (not_mem_tickets_drop_concat hplace ?_) hwork
        exact fun hnew ↦ hgiven.ne (List.mem_singleton.mp hnew)
      | stop => exact ih nofun hgiven (not_mem_tickets_drop_concat hplace List.not_mem_nil) hwork
      | work =>
        rw [List.countP_cons_of_pos rfl] at hwork
        cases queue with
        | nil => exact ih hclosed hgiven hnothing (Nat.zero_le _)
        | cons message queue =>
          have hrest : ticket ∉ tickets (queue.drop (place - 1)) := by
            cases place with
            | zero =>
              intro hmem
              refine hplace ?_
              rw [List.drop_zero, ← List.singleton_append, tickets_append]
              exact List.mem_append_right _ hmem
            | succ place => exact hplace
          cases message with
          | request first request => exact ih nofun hgiven hrest (by omega)
          | stop => exact ih (fun _ ↦ rfl) hgiven hnothing (Nat.zero_le _)

theorem Log.queue_eq_nil {config : EngineConfig} {events : List WorkEvent} {w : Workplace}
    (hlog : Log config events w) (hclosed : w.closed = true) : w.queue = [] := by
  cases hlog with
  | working taken queue h => cases hclosed
  | closed taken refused h => rfl

theorem Log.nextTicket_eq {config : EngineConfig} {events : List WorkEvent} {w : Workplace}
    (hlog : Log config events w) : w.nextTicket = (arrivals events).length := by
  cases hlog with
  | working taken queue h => rfl
  | closed taken refused h => rfl

theorem length_queue_submit_le (w : Workplace) (request : Request) :
    (w.after (.submit request)).queue.length ≤ w.queue.length + 1 := by
  rw [after]
  split
  · exact Nat.le_succ _
  · exact List.length_append.le

/-- A request waits no longer than it takes the worker to take the messages before it and the
request itself. -/
theorem not_mem_tickets_of_work {config : EngineConfig} {before after : List WorkEvent}
    (request : Request)
    (hwork : ((start config).afterAll before).queue.length < after.countP WorkEvent.isWork) :
    (arrivals before).length
      ∉ tickets ((start config).afterAll (before ++ .submit request :: after)).queue := by
  have hlog := (log_afterAll config before).after (.submit request)
  have hgiven : (arrivals before).length
      < (((start config).afterAll before).after (.submit request)).nextTicket := by
    rw [hlog.nextTicket_eq]
    simp [WorkEvent.request?]
  have hplace : (((start config).afterAll before).after (.submit request)).queue.drop
      (((start config).afterAll before).queue.length + 1) = [] :=
    List.drop_eq_nil_of_le (length_queue_submit_le _ request)
  rw [afterAll_append, afterAll_cons]
  exact not_mem_tickets_afterAll hlog.queue_eq_nil hgiven (hplace ▸ List.not_mem_nil) hwork

/-- **Every request is answered once.** The tickets that were answered, and those of the requests
that wait, are all tickets in order. A request that waits has no answer yet, and each other one has
the answer that is due to it and no second one; it waits no longer than it takes the worker to take
the messages before it and the request itself. The pipeline of the worker has handled the requests
that the worker has taken, all of which came in before the stop, and nothing else. -/
theorem answersTo_afterAll (config : EngineConfig) (events : List WorkEvent) :
    let w := (start config).afterAll events
    w.answers.map Prod.fst ++ tickets w.queue = List.range (arrivals events).length ∧
    (∀ before request after, events = before ++ .submit request :: after →
      answersTo w.answers (arrivals before).length
          = (if (arrivals before).length ∈ tickets w.queue then []
            else [due config before request]) ∧
        (((start config).afterAll before).queue.length < after.countP WorkEvent.isWork →
          (arrivals before).length ∉ tickets w.queue)) ∧
    w.worker.pipeline
      = ((Pipeline.new config).handleAll ((inTime events).take w.worker.generation)).2 := by
  intro w
  have hlog := log_afterAll config events
  refine ⟨hlog.tickets_eq, ?_, congrArg Worker.pipeline hlog.worker_eq⟩
  rintro before request after rfl
  exact ⟨hlog.answersTo_eq, not_mem_tickets_of_work request⟩

end Workplace

end RunQuery
