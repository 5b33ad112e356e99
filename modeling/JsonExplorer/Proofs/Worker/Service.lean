import JsonExplorer.Proofs.Coordinator.History
import JsonExplorer.Search
import JsonExplorer.Worker

/-!
A worker and those who call on it, step by step. Several callers may be searching at once: each is
given a number and comes to the worker some time later, not always in the order of the numbers. In
between the loop of the worker takes its turns, and the worker may be closed. `Service.step` is one
such step, in whatever order they come, and `Service.Move` says once what a step can do. The parts
of a search make up the search of a coordinator (`search_eq_conduct`).
-/

namespace JsonExplorer

namespace Coordinator

/-- What a search does once its request has a number. -/
def conduct (c : Coordinator) (q : SearchRequest) (handle : SearchRequest → Handling) :
    Coordinator :=
  if q.query.isBlank then c.accept (.empty q.sequenceId)
  else (c.useReply q (handle q).reply).finish q (handle q).completed

theorem search_eq_conduct (c : Coordinator) (document : Value) (query : Query)
    (handle : SearchRequest → Handling) :
    c.search document query handle =
      (c.issued + 1,
        { c with issued := c.issued + 1 }.conduct (c.nextRequest document query) handle) := by
  by_cases hb : query.isBlank = true
  · simp [search, conduct, nextRequest, hb]
  · simp only [search, conduct, nextRequest, hb, Bool.false_eq_true, ↓reduceIte]
    rfl

/-- To take in a response twice is to take it in once. -/
theorem accept_accept (c : Coordinator) (r : SearchResponse) :
    (c.accept r).accept r = c.accept r := by
  by_cases h : r.sequenceId < c.issued ∨ r.sequenceId ≤ c.settled
  · rw [accept_of_stale h, accept_of_stale h]
  · have hfresh : c.accept r = c.publish r.sequenceId r :=
      accept_of_fresh (by omega) (by omega)
    rw [hfresh]
    exact accept_of_stale (Or.inr (Nat.le_refl _))

end Coordinator

open Coordinator (nextRequest)

/-- A coordinator whose requests go to a worker, between two steps of anybody. The `calls` have a
number and have not come to the worker yet, and `current` is the job that the worker has taken from
its queue and not answered. -/
structure Service where
  coordinator : Coordinator := {}
  worker : Worker := {}
  calls : List SearchRequest := []
  current : Option SearchRequest := none

namespace Service

/-- What can happen: a caller is given a number, a caller comes to the worker, the loop of the
worker takes its next turn, and the worker is closed. -/
inductive Event where
  | call (document : Value) (query : Query)
  | dispatch (id : Nat)
  | turn
  | close

/-- What callers and replies see: how the worker has taken a request, and what it has sent. -/
inductive Record where
  | dispatched (request : SearchRequest) (handling : Handling)
  | sent (request : SearchRequest) (response : SearchResponse)

variable (breaks : SearchRequest → Bool) (s : Service)

def attempt (q : SearchRequest) : Option SearchResponse :=
  if breaks q then none else some (Search.execute q)

/-- What a request is answered with: what is found, or nothing if the search breaks down. -/
def answer (q : SearchRequest) : SearchResponse :=
  if breaks q then .empty q.sequenceId else Search.execute q

theorem worker_answer (q : SearchRequest) :
    Worker.answer (attempt breaks) q = answer breaks q := by
  by_cases hb : breaks q = true <;> simp [answer, Worker.answer, attempt, hb]

theorem sequenceId_answer (q : SearchRequest) : (answer breaks q).sequenceId = q.sequenceId := by
  by_cases hb : breaks q = true <;> simp [answer, hb] <;> rfl

def call (document : Value) (query : Query) : Service :=
  { s with
    coordinator := { s.coordinator with issued := s.coordinator.issued + 1 }
    calls := s.calls ++ [s.coordinator.nextRequest document query] }

def callsWithout (q : SearchRequest) : List SearchRequest :=
  s.calls.filter (·.sequenceId != q.sequenceId)

/-- A caller goes on with its search: a blank one ends at once, and any other goes to the worker. -/
def proceed (q : SearchRequest) : Service :=
  { s with
    coordinator := s.coordinator.conduct q s.worker.handling
    worker := if q.query.isBlank then s.worker else (s.worker.dispatch q).getD s.worker
    calls := s.callsWithout q }

def call? (id : Nat) : Option SearchRequest := s.calls.find? (·.sequenceId == id)

/-- The loop of the worker answers the job it has taken, or else takes the oldest one. -/
def turn : Service :=
  match s.current with
  | some q =>
    { s with
      coordinator := s.coordinator.send q.sequenceId (Worker.answer (attempt breaks) q)
      current := none }
  | none =>
    match s.worker.jobs with
    | [] => s
    | q :: rest => { s with worker := { s.worker with jobs := rest }, current := some q }

def step : Event → Service
  | .call document query => s.call document query
  | .dispatch id =>
    match s.call? id with
    | some q => s.proceed q
    | none => s
  | .turn => s.turn breaks
  | .close => { s with worker := s.worker.close }

/-- What can be seen of an event. Nobody comes to the worker with a blank search, and a reply that
is not outstanding cannot be sent. -/
def records : Event → List Record
  | .call _ _ | .close => []
  | .dispatch id =>
    match s.call? id with
    | some q => if q.query.isBlank then [] else [.dispatched q (s.worker.handling q)]
    | none => []
  | .turn =>
    match s.current with
    | some q =>
      (s.coordinator.outstanding? q.sequenceId).toList.map fun q =>
        .sent q (Worker.answer (attempt breaks) q)
    | none => []

def history : Service → List Event → List Record
  | _, [] => []
  | s, e :: rest => s.records breaks e ++ history (s.step breaks e) rest

def run (events : List Event) : Service := events.foldl (step breaks) {}

def Record.accepted? : Record → Option SearchRequest
  | dispatched q handling => if handling.completed then some q else none
  | sent _ _ => none

def Record.sent? : Record → Option (SearchRequest × SearchResponse)
  | sent q r => some (q, r)
  | dispatched _ _ => none

/-- The requests the worker has taken without an error, in the order in which they came. -/
def accepted (past : List Record) : List SearchRequest := past.filterMap Record.accepted?

def replies (past : List Record) : List (SearchRequest × SearchResponse) :=
  past.filterMap Record.sent?

/-- What the worker has taken and not answered, oldest first. -/
def waiting : List SearchRequest := s.current.toList ++ s.worker.jobs

theorem accepted_append (past more : List Record) :
    accepted (past ++ more) = accepted past ++ accepted more := List.filterMap_append

/-! ## Steps -/

variable {breaks s}

def enqueue (s : Service) (q : SearchRequest) : Service :=
  { s with
    coordinator := { s.coordinator with outstanding := s.coordinator.outstanding ++ [q] }
    worker := { s.worker with jobs := s.worker.jobs ++ [q] }
    calls := s.callsWithout q }

/-- A caller's request is settled without an answer. -/
def settle (s : Service) (q : SearchRequest) : Service :=
  { s with
    coordinator := s.coordinator.accept (.empty q.sequenceId)
    calls := s.callsWithout q }

def reply (breaks : SearchRequest → Bool) (s : Service) (q : SearchRequest) : Service :=
  { s with
    coordinator := s.coordinator.send q.sequenceId (answer breaks q)
    current := none }

def take (s : Service) (q : SearchRequest) (rest : List SearchRequest) : Service :=
  { s with worker := { s.worker with jobs := rest }, current := some q }

/-- What a step does, with what can be seen of it. The request of a caller that goes on is settled
at once if it is blank or the worker is closed. -/
inductive Move (breaks : SearchRequest → Bool) (s : Service) : List Record → Service → Prop
  | rest : Move breaks s [] s
  | call (document : Value) (query : Query) : Move breaks s [] (s.call document query)
  | blank {q : SearchRequest} (hq : q ∈ s.calls) : Move breaks s [] (s.settle q)
  | refuse {q : SearchRequest} (hq : q ∈ s.calls) (closed : s.worker.running = false) :
      Move breaks s [.dispatched q ⟨.dropped, false⟩] (s.settle q)
  | enqueue {q : SearchRequest} (hq : q ∈ s.calls) (running : s.worker.running = true) :
      Move breaks s [.dispatched q ⟨.kept, true⟩] (s.enqueue q)
  | take {q : SearchRequest} {rest : List SearchRequest} (hcurrent : s.current = none)
      (hjobs : s.worker.jobs = q :: rest) : Move breaks s [] (s.take q rest)
  | reply {q : SearchRequest} (hcurrent : s.current = some q) :
      Move breaks s
        ((s.coordinator.outstanding? q.sequenceId).toList.map fun q => .sent q (answer breaks q))
        (s.reply breaks q)
  | close : Move breaks s [] { s with worker := s.worker.close }

theorem waiting_enqueue (q : SearchRequest) : (s.enqueue q).waiting = s.waiting ++ [q] :=
  (List.append_assoc _ _ _).symm

theorem waiting_reply {q : SearchRequest} (h : s.current = some q) :
    s.waiting = q :: (s.reply breaks q).waiting := by
  simp [waiting, reply, h]

theorem waiting_take {q : SearchRequest} {rest : List SearchRequest} (hcurrent : s.current = none)
    (hjobs : s.worker.jobs = q :: rest) : (s.take q rest).waiting = s.waiting := by
  simp [waiting, take, hcurrent, hjobs]

theorem call?_eq_some {id : Nat} {q : SearchRequest} (h : s.call? id = some q) :
    q ∈ s.calls ∧ q.sequenceId = id :=
  ⟨List.mem_of_find?_eq_some h, by simpa using List.find?_some h⟩

theorem move_proceed {q : SearchRequest} (hq : q ∈ s.calls) :
    Move breaks s (if q.query.isBlank then [] else [.dispatched q (s.worker.handling q)])
      (s.proceed q) := by
  by_cases hb : q.query.isBlank = true
  · have hp : s.proceed q = s.settle q := by simp [proceed, settle, Coordinator.conduct, hb]
    rw [hp, if_pos hb]
    exact .blank hq
  · by_cases hr : s.worker.running = true
    · have hp : s.proceed q = s.enqueue q := by
        simp [proceed, enqueue, Coordinator.conduct, Worker.handling, Worker.dispatch,
          Coordinator.useReply, Coordinator.finish, hb, hr]
      rw [hp, if_neg hb, Worker.handling, if_pos hr]
      exact .enqueue hq hr
    · have hp : s.proceed q = s.settle q := by
        simp [proceed, settle, Coordinator.conduct, Worker.handling, Worker.dispatch,
          Coordinator.useReply, Coordinator.finish, Coordinator.accept_accept, hb, hr]
      rw [hp, if_neg hb, Worker.handling, if_neg hr]
      exact .refuse hq (by simpa using hr)

theorem turn_of_current {q : SearchRequest} (h : s.current = some q) :
    s.turn breaks = s.reply breaks q := by
  simp [turn, reply, h, worker_answer]

theorem turn_of_jobs {q : SearchRequest} {rest : List SearchRequest} (hcurrent : s.current = none)
    (hjobs : s.worker.jobs = q :: rest) : s.turn breaks = s.take q rest := by
  simp [turn, take, hcurrent, hjobs]

theorem turn_of_idle (hcurrent : s.current = none) (hjobs : s.worker.jobs = []) :
    s.turn breaks = s := by
  simp [turn, hcurrent, hjobs]

theorem move (breaks : SearchRequest → Bool) (s : Service) (e : Event) :
    Move breaks s (s.records breaks e) (s.step breaks e) := by
  cases e with
  | call document query => exact .call document query
  | dispatch id =>
    cases hq : s.call? id with
    | none => simpa [records, step, hq] using Move.rest
    | some q =>
      simp only [records, step, hq]
      exact move_proceed (call?_eq_some hq).1
  | turn =>
    cases hc : s.current with
    | some q =>
      rw [step, turn_of_current hc]
      simpa [records, hc, worker_answer] using Move.reply hc
    | none =>
      have hseen : s.records breaks .turn = [] := by simp [records, hc]
      rw [hseen, step]
      cases hj : s.worker.jobs with
      | nil =>
        rw [turn_of_idle hc hj]
        exact .rest
      | cons q rest =>
        rw [turn_of_jobs hc hj]
        exact .take hc hj
  | close => exact .close

end Service

end JsonExplorer
