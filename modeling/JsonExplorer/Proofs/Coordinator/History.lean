import JsonExplorer.Coordinator

/-!
What a coordinator has been through. Each event leaves notes of what became of which request, and a
run leaves its `history`. The single operations are brought into the form in which they are
reasoned about: a search is the handing over of a request, the use of its reply and the failure of
its executor (`search_eq`), and giving up is taking in an empty response (`abandon_eq_accept`).
-/

namespace JsonExplorer.Coordinator

/-! ## Notes -/

/-- What can become of a request: it is handed to the executor, its reply is sent or dropped, its
executor fails, or a waiter gives it up. -/
inductive Note where
  | dispatched (request : SearchRequest)
  | sent (request : SearchRequest) (response : SearchResponse)
  | dropped (request : SearchRequest)
  | failed (request : SearchRequest)
  | abandoned (id : Nat)

/-- The number of the reply that is used up, if the note is of such a use. -/
def Note.replyUsed? : Note → Option Nat
  | sent q _ | dropped q => some q.sequenceId
  | _ => none

def useNotes (q : SearchRequest) : ReplyUse → List Note
  | .sent r => [.sent q r]
  | .dropped => [.dropped q]
  | .kept => []

def failureNotes (q : SearchRequest) (completed : Bool) : List Note :=
  if completed then [] else [.failed q]

def nextRequest (c : Coordinator) (document : Value) (query : Query) : SearchRequest :=
  ⟨c.issued + 1, document, query⟩

/-- The notes an event leaves. A blank query is never dispatched, and a reply that is not
outstanding cannot be used again. -/
def notes (c : Coordinator) : Event → List Note
  | .search document query handle =>
    if query.isBlank then []
    else
      let q := c.nextRequest document query
      .dispatched q :: (useNotes q (handle q).reply ++ failureNotes q (handle q).completed)
  | .send id r => (c.outstanding? id).toList.map (.sent · r)
  | .drop id => (c.outstanding? id).toList.map .dropped
  | .abandon =>
    match c.phase with
    | .awaiting => [.abandoned c.issued]
    | .idle => []

/-- The notes that events leave one after another, from `c` on. -/
def history (c : Coordinator) : List Event → List Note
  | [] => []
  | e :: rest => c.notes e ++ (c.step e).history rest

def repliesUsed (past : List Note) : List Nat := past.filterMap Note.replyUsed?

/-- Every response carries the number of the reply it was sent through. -/
def OwnNumbers (past : List Note) : Prop :=
  ∀ q r, Note.sent q r ∈ past → r.sequenceId = q.sequenceId

/-- Every reply that was handed out has been sent or dropped. -/
def AllUsed (past : List Note) : Prop :=
  ∀ q, Note.dispatched q ∈ past → q.sequenceId ∈ repliesUsed past

/-- The request of this number was dropped, its executor failed, or it was given up. -/
def Lost (past : List Note) (id : Nat) : Prop :=
  (∃ q : SearchRequest, q.sequenceId = id ∧ (Note.dropped q ∈ past ∨ Note.failed q ∈ past)) ∨
    Note.abandoned id ∈ past

/-- No request of this number was ever handed to the executor. -/
def NeverDispatched (past : List Note) (id : Nat) : Prop :=
  ∀ q, Note.dispatched q ∈ past → q.sequenceId ≠ id

/-- Where the result of a number comes from: it was sent for that request, or it is empty since the
request was never dispatched or was lost. -/
def ResultOf (past : List Note) (id : Nat) (result : SearchResult) : Prop :=
  (∃ q r, Note.sent q r ∈ past ∧ q.sequenceId = id ∧ result = .ofResponse r) ∨
    (result = .ofResponse (.empty id) ∧ (NeverDispatched past id ∨ Lost past id))

def Note.hasOwnNumber : Note → Bool
  | sent q r => r.sequenceId == q.sequenceId
  | _ => true

def Note.isUsedIn (past : List Note) : Note → Bool
  | dispatched q => (repliesUsed past).contains q.sequenceId
  | _ => true

theorem all_hasOwnNumber_iff (past : List Note) :
    past.all Note.hasOwnNumber = true ↔ OwnNumbers past := by
  rw [List.all_eq_true]
  constructor
  · intro h q r hs
    simpa [Note.hasOwnNumber] using h _ hs
  · intro h n hn
    cases n with
    | sent q r => simpa [Note.hasOwnNumber] using h q r hn
    | _ => rfl

theorem all_isUsedIn_iff (past : List Note) :
    past.all (Note.isUsedIn past) = true ↔ AllUsed past := by
  rw [List.all_eq_true]
  constructor
  · intro h q hd
    simpa [Note.isUsedIn] using h _ hd
  · intro h n hn
    cases n with
    | dispatched q => simpa [Note.isUsedIn] using h q hn
    | _ => rfl

instance (past : List Note) : Decidable (OwnNumbers past) :=
  decidable_of_iff _ (all_hasOwnNumber_iff past)

instance (past : List Note) : Decidable (AllUsed past) :=
  decidable_of_iff _ (all_isUsedIn_iff past)

theorem history_append (c : Coordinator) (first rest : List Event) :
    c.history (first ++ rest) = c.history first ++ (first.foldl step c).history rest := by
  induction first generalizing c with
  | nil => rfl
  | cons e more ih => simp [history, ih]

theorem repliesUsed_append (past more : List Note) :
    repliesUsed (past ++ more) = repliesUsed past ++ repliesUsed more :=
  List.filterMap_append

theorem Lost.append {past : List Note} {id : Nat} (h : Lost past id) (more : List Note) :
    Lost (past ++ more) id := by
  rcases h with ⟨q, hq, h | h⟩ | h
  · exact Or.inl ⟨q, hq, Or.inl (List.mem_append_left _ h)⟩
  · exact Or.inl ⟨q, hq, Or.inr (List.mem_append_left _ h)⟩
  · exact Or.inr (List.mem_append_left _ h)

/-- Later notes leave the source of a result as it is, unless they dispatch its number. -/
theorem ResultOf.append {past more : List Note} {id : Nat} {result : SearchResult}
    (h : ResultOf past id result) (hm : NeverDispatched more id) :
    ResultOf (past ++ more) id result := by
  rcases h with ⟨q, r, hs, hq, hr⟩ | ⟨hr, hn | hl⟩
  · exact Or.inl ⟨q, r, List.mem_append_left _ hs, hq, hr⟩
  · refine Or.inr ⟨hr, Or.inl fun q hq => ?_⟩
    rcases List.mem_append.mp hq with hq | hq
    · exact hn q hq
    · exact hm q hq
  · exact Or.inr ⟨hr, Or.inr (hl.append more)⟩

theorem OwnNumbers.left {past more : List Note} (h : OwnNumbers (past ++ more)) :
    OwnNumbers past :=
  fun q r hs => h q r (List.mem_append_left _ hs)

theorem OwnNumbers.right {past more : List Note} (h : OwnNumbers (past ++ more)) :
    OwnNumbers more :=
  fun q r hs => h q r (List.mem_append_right _ hs)

/-! ## Single operations -/

theorem phase_eq_awaiting_iff (c : Coordinator) : c.phase = .awaiting ↔ c.settled < c.issued := by
  unfold phase
  split <;> simp <;> omega

/-- What taking in a response can do, if its number has been given out: nothing, or settle the
latest request. -/
theorem accept_cases {c : Coordinator} {r : SearchResponse} (hr : r.sequenceId ≤ c.issued) :
    (c.accept r = c ∧ (r.sequenceId < c.issued ∨ c.issued ≤ c.settled)) ∨
      (c.accept r = c.publish c.issued r ∧ r.sequenceId = c.issued) := by
  by_cases hstale : r.sequenceId < c.issued ∨ r.sequenceId ≤ c.settled
  · refine Or.inl ⟨accept_of_stale hstale, ?_⟩
    omega
  · have hid : r.sequenceId = c.issued := by omega
    refine Or.inr ⟨?_, hid⟩
    rw [accept_of_fresh (by omega) (by omega), hid]

/-- A response of the latest number leaves nothing to wait for. -/
theorem settled_accept_latest {c : Coordinator} {r : SearchResponse}
    (hr : r.sequenceId = c.issued) : c.issued ≤ (c.accept r).settled := by
  rcases accept_cases (Nat.le_of_eq hr) with ⟨he, h | h⟩ | ⟨he, _⟩
  · omega
  · rw [he]; exact h
  · rw [he]; exact Nat.le_refl _

/-- Giving the latest request up is taking in an empty response for it. -/
theorem abandon_eq_accept (c : Coordinator) : c.abandon = c.accept (.empty c.issued) := by
  by_cases h : c.settled < c.issued
  · have hf : c.accept (.empty c.issued) = c.publish c.issued (.empty c.issued) :=
      accept_of_fresh (Nat.le_refl _) h
    simp only [abandon, phase, if_pos h, hf]
  · have hs : c.accept (.empty c.issued) = c :=
      accept_of_stale (Or.inr (Nat.le_of_not_lt h))
    simp only [abandon, phase, if_neg h, hs]

def handOver (c : Coordinator) (q : SearchRequest) : Coordinator :=
  { c with issued := q.sequenceId, outstanding := c.outstanding ++ [q] }

def useOutstanding (c : Coordinator) (q : SearchRequest) : ReplyUse → Coordinator
  | .sent r => (c.release q.sequenceId).accept r
  | .dropped => (c.release q.sequenceId).accept (.empty q.sequenceId)
  | .kept => c

def finish (c : Coordinator) (q : SearchRequest) (completed : Bool) : Coordinator :=
  if completed then c else c.accept (.empty q.sequenceId)

theorem mem_release {c : Coordinator} {id : Nat} {q : SearchRequest} :
    q ∈ (c.release id).outstanding ↔ q ∈ c.outstanding ∧ q.sequenceId ≠ id := by
  simp [release, List.mem_filter]

theorem release_handOver {c : Coordinator} {q : SearchRequest}
    (hnew : ∀ q' ∈ c.outstanding, q'.sequenceId ≠ q.sequenceId) :
    (c.handOver q).release q.sequenceId = { c with issued := q.sequenceId } := by
  have hkeep : c.outstanding.filter (·.sequenceId != q.sequenceId) = c.outstanding :=
    List.filter_eq_self.mpr fun q' hq' => by simpa using hnew q' hq'
  simp [handOver, release, List.filter_append, hkeep]

/-- Using a reply before the request counts as outstanding is using it afterwards. -/
theorem useReply_eq {c : Coordinator} {q : SearchRequest}
    (hnew : ∀ q' ∈ c.outstanding, q'.sequenceId ≠ q.sequenceId) (use : ReplyUse) :
    useReply { c with issued := q.sequenceId } q use = (c.handOver q).useOutstanding q use := by
  cases use with
  | sent r => simp only [useReply, useOutstanding, release_handOver hnew]
  | dropped => simp only [useReply, useOutstanding, release_handOver hnew]
  | kept => rfl

/-- Making a request is handing it over, using its reply, and the failure of the executor. -/
theorem search_eq {c : Coordinator} {document : Value} {query : Query}
    {handle : SearchRequest → Handling} {q : SearchRequest} (hb : query.isBlank = false)
    (hq : c.nextRequest document query = q)
    (hle : ∀ q' ∈ c.outstanding, q'.sequenceId ≤ c.issued) :
    (c.search document query handle).2 =
      ((c.handOver q).useOutstanding q (handle q).reply).finish q (handle q).completed := by
  -- replies are known by their numbers, and no outstanding one has the new number
  have hid : q.sequenceId = c.issued + 1 := by rw [← hq]; rfl
  have hnew : ∀ q' ∈ c.outstanding, q'.sequenceId ≠ q.sequenceId := fun q' hq' => by
    have := hle q' hq'
    omega
  rw [← useReply_eq hnew]
  subst hq
  simp only [search, hb, Bool.false_eq_true, ↓reduceIte]
  rfl

theorem outstanding?_eq_some {c : Coordinator} {id : Nat} {q : SearchRequest}
    (h : c.outstanding? id = some q) : q ∈ c.outstanding ∧ q.sequenceId = id :=
  ⟨List.mem_of_find?_eq_some h, by simpa using List.find?_some h⟩

theorem send_of_none {c : Coordinator} {id : Nat} (h : c.outstanding? id = none)
    (r : SearchResponse) : c.send id r = c := by
  simp [send, h]

theorem send_of_some {c : Coordinator} {id : Nat} {q : SearchRequest}
    (h : c.outstanding? id = some q) (r : SearchResponse) :
    c.send id r = (c.release q.sequenceId).accept r := by
  rw [(outstanding?_eq_some h).2]
  simp [send, h]

/-! ## Numbers -/

def Event.isSearch : Event → Bool
  | .search .. => true
  | _ => false

theorem issued_search (c : Coordinator) (document : Value) (query : Query)
    (handle : SearchRequest → Handling) :
    (c.search document query handle).2.issued = c.issued + 1 := by
  have huse : ∀ (c : Coordinator) (q : SearchRequest) (use : ReplyUse),
      (c.useReply q use).issued = c.issued := by
    intro c q use
    cases use <;> simp [useReply, issued_accept]
  simp only [search]
  split
  · exact issued_accept _ _
  · split
    · exact huse _ _ _
    · rw [issued_accept]
      exact huse _ _ _

theorem issued_send (c : Coordinator) (id : Nat) (r : SearchResponse) :
    (c.send id r).issued = c.issued := by
  unfold send
  split
  · exact issued_accept _ _
  · rfl

theorem issued_step (c : Coordinator) (e : Event) :
    (c.step e).issued = c.issued + if e.isSearch then 1 else 0 := by
  cases e with
  | search document query handle => exact issued_search c document query handle
  | send id r => exact issued_send c id r
  | drop id => exact issued_send c id _
  | abandon =>
    show c.abandon.issued = c.issued
    rw [abandon_eq_accept, issued_accept]

theorem issued_foldl (c : Coordinator) (events : List Event) :
    (events.foldl step c).issued = c.issued + events.countP Event.isSearch := by
  induction events generalizing c with
  | nil => rfl
  | cons e rest ih =>
    rw [List.foldl_cons, ih, issued_step, List.countP_cons]
    omega

/-- The latest number counts the searches made. A run of fewer than `2 ^ 64` events therefore stays
within 64-bit numbers. -/
theorem issued_run (events : List Event) : (run events).issued = events.countP Event.isSearch :=
  (issued_foldl {} events).trans (Nat.zero_add _)

end JsonExplorer.Coordinator
