import JsonExplorer.Exchange

/-!
Numbering of search requests. Every request gets the next number, and an answer is published only
if no newer request has been made since and none as new has been answered. A request counts as
answered too when its reply is dropped, its executor fails, or a waiter gives it up; an empty
result is published for it then.
-/

namespace JsonExplorer

inductive Phase where
  | idle
  | awaiting
  deriving DecidableEq, Repr

/-- What an executor does with the reply it is handed, before it returns. -/
inductive ReplyUse where
  | sent (response : SearchResponse)
  | dropped
  | kept
  deriving DecidableEq, Repr

/-- How an executor takes a request: what becomes of the reply, and whether it returns without an
error or a panic. -/
structure Handling where
  reply : ReplyUse
  completed : Bool
  deriving DecidableEq, Repr

/-- The numbering at one moment: `issued` is the highest number given out, `settled` the highest one
answered or given up. The requests whose replies an executor keeps are `outstanding`, oldest first,
and `revision` counts the published results. -/
structure Coordinator where
  issued : Nat := 0
  settled : Nat := 0
  published : SearchResult := {}
  revision : Nat := 0
  outstanding : List SearchRequest := []

namespace Coordinator

def phase (c : Coordinator) : Phase := if c.settled < c.issued then .awaiting else .idle

theorem phase_eq_idle_iff (c : Coordinator) : c.phase = .idle ↔ c.issued ≤ c.settled := by
  unfold phase
  split <;> simp <;> omega

def publish (c : Coordinator) (id : Nat) (r : SearchResponse) : Coordinator :=
  { c with settled := id, published := .ofResponse r, revision := c.revision + 1 }

/-- Takes in a response. One that is older than the latest request, or no newer than what has been
settled, is stale and changes nothing. -/
def accept (c : Coordinator) (r : SearchResponse) : Coordinator :=
  if r.sequenceId < c.issued ∨ r.sequenceId ≤ c.settled then c else c.publish r.sequenceId r

theorem accept_of_stale {c : Coordinator} {r : SearchResponse}
    (h : r.sequenceId < c.issued ∨ r.sequenceId ≤ c.settled) : c.accept r = c := if_pos h

theorem accept_of_fresh {c : Coordinator} {r : SearchResponse}
    (hi : c.issued ≤ r.sequenceId) (hs : c.settled < r.sequenceId) :
    c.accept r = c.publish r.sequenceId r := by
  refine if_neg ?_
  omega

theorem issued_accept (c : Coordinator) (r : SearchResponse) :
    (c.accept r).issued = c.issued := by
  unfold accept
  split <;> rfl

theorem settled_le_accept (c : Coordinator) (r : SearchResponse) :
    c.settled ≤ (c.accept r).settled := by
  unfold accept
  split
  · exact Nat.le_refl _
  · rename_i h
    show c.settled ≤ r.sequenceId
    omega

theorem outstanding_accept (c : Coordinator) (r : SearchResponse) :
    (c.accept r).outstanding = c.outstanding := by
  unfold accept
  split <;> rfl

def useReply (c : Coordinator) (request : SearchRequest) : ReplyUse → Coordinator
  | .sent r => c.accept r
  | .dropped => c.accept (.empty request.sequenceId)
  | .kept => { c with outstanding := c.outstanding ++ [request] }

/-- Makes a request and gives its number. A blank query is settled at once; any other goes to the
executor, whose failure settles it too. -/
def search (c : Coordinator) (document : Value) (query : Query)
    (handle : SearchRequest → Handling) : Nat × Coordinator :=
  let id := c.issued + 1
  let c := { c with issued := id }
  if query.isBlank then (id, c.accept (.empty id))
  else
    let request := ⟨id, document, query⟩
    let handling := handle request
    let c := c.useReply request handling.reply
    (id, if handling.completed then c else c.accept (.empty id))

def outstanding? (c : Coordinator) (id : Nat) : Option SearchRequest :=
  c.outstanding.find? (·.sequenceId == id)

def release (c : Coordinator) (id : Nat) : Coordinator :=
  { c with outstanding := c.outstanding.filter (·.sequenceId != id) }

def send (c : Coordinator) (id : Nat) (r : SearchResponse) : Coordinator :=
  if (c.outstanding? id).isSome then (c.release id).accept r else c

def drop (c : Coordinator) (id : Nat) : Coordinator := c.send id (.empty id)

/-- Gives up the latest request if it is still awaited. -/
def abandon (c : Coordinator) : Coordinator :=
  match c.phase with
  | .awaiting => c.publish c.issued (.empty c.issued)
  | .idle => c

/-- Waits for the latest request: gives the published result at once when idle. Otherwise a waiter
with a time limit ends up giving the request up, and one without is left waiting. -/
def wait? (c : Coordinator) (limited : Bool) : Option (SearchResult × Coordinator) :=
  match c.phase, limited with
  | .idle, _ => some (c.published, c)
  | .awaiting, true => some (c.abandon.published, c.abandon)
  | .awaiting, false => none

inductive Event where
  | search (document : Value) (query : Query) (handle : SearchRequest → Handling)
  | send (id : Nat) (response : SearchResponse)
  | drop (id : Nat)
  | abandon

def step (c : Coordinator) : Event → Coordinator
  | .search document query handle => (c.search document query handle).2
  | .send id response => c.send id response
  | .drop id => c.drop id
  | .abandon => c.abandon

def run (events : List Event) : Coordinator := events.foldl step {}

end Coordinator

/-- One who watches the published results, and the count of results it has seen. -/
structure Subscriber where
  seen : Nat
  deriving DecidableEq, Repr

namespace Subscriber

/-- A new subscriber has seen what is published at its start. -/
def start (c : Coordinator) : Subscriber := ⟨c.revision⟩

/-- Whether something has been published since, and the subscriber after looking at it. -/
def poll (s : Subscriber) (c : Coordinator) : Bool × Subscriber :=
  (s.seen != c.revision, ⟨c.revision⟩)

end Subscriber

end JsonExplorer
