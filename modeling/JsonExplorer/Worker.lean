import JsonExplorer.Coordinator

/-!
A worker that answers requests in the order in which they came. Closing it refuses further
requests, while those already queued are still answered. A search that breaks down is answered with
an empty response.
-/

namespace JsonExplorer

structure Worker where
  running : Bool := true
  jobs : List SearchRequest := []

namespace Worker

/-- How the worker takes a request: it queues it with its reply, or refuses it when closed. -/
def handling (w : Worker) (_ : SearchRequest) : Handling :=
  if w.running then ⟨.kept, true⟩ else ⟨.dropped, false⟩

def dispatch (w : Worker) (request : SearchRequest) : Option Worker :=
  if w.running then some { w with jobs := w.jobs ++ [request] } else none

/-- Queues the requests a coordinator has handed out since number `before`. -/
def collect (w : Worker) (c : Coordinator) (before : Nat) : Worker :=
  (c.outstanding.filter (before < ·.sequenceId)).foldl (fun w r => (w.dispatch r).getD w) w

/-- The answer to a job; `run` gives nothing when it breaks down. -/
def answer (run : SearchRequest → Option SearchResponse) (job : SearchRequest) : SearchResponse :=
  (run job).getD (.empty job.sequenceId)

/-- Answers all jobs, oldest first. -/
def drain (run : SearchRequest → Option SearchResponse) (w : Worker) (c : Coordinator) :
    Worker × Coordinator :=
  ({ w with jobs := [] }, w.jobs.foldl (fun c job => c.send job.sequenceId (answer run job)) c)

def close (w : Worker) : Worker := { w with running := false }

/-- Closes the worker and waits until its queue is empty. -/
def stop (run : SearchRequest → Option SearchResponse) (w : Worker) (c : Coordinator) :
    Worker × Coordinator := w.close.drain run c

end Worker

end JsonExplorer
