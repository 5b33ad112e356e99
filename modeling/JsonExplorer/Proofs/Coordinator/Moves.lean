import JsonExplorer.Proofs.Coordinator.Consistent

/-!
What an event does to a coordinator, said once. An event is one of a few `Move`s, with the notes it
leaves; what every run keeps whatever numbers responses carry (`Coherent`) is what is needed to see
that (`Coherent.move`). A reply that is used is taken away before its response is taken in
(`Move.of_answers`).
-/

namespace JsonExplorer.Coordinator

variable {c d : Coordinator} {q : SearchRequest} {r : SearchResponse} {ns : List Note}

/-- What holds of a coordinator whatever numbers responses carry. -/
structure Coherent (c : Coordinator) : Prop where
  published_id : c.published.sequenceId = c.settled
  outstanding_le : ∀ q ∈ c.outstanding, q.sequenceId ≤ c.issued

theorem coherent_init : Coherent {} where
  published_id := rfl
  outstanding_le q hq := by simp at hq

/-- What an event does: nothing, or a few moves after one another, with the notes it leaves. -/
inductive Move (c : Coordinator) : List Note → Coordinator → Prop
  | rest : Move c [] c
  | blank : Move c [] ({ c with issued := c.issued + 1 }.accept (.empty (c.issued + 1)))
  | search {q : SearchRequest} (use : ReplyUse) (completed : Bool)
      (hq : q.sequenceId = c.issued + 1) :
      Move c (.dispatched q :: (useNotes q use ++ failureNotes q completed))
        (((c.handOver q).useOutstanding q use).finish q completed)
  | use {q : SearchRequest} (use : ReplyUse) (hq : q ∈ c.outstanding) :
      Move c (useNotes q use) (c.useOutstanding q use)
  | abandon : Move c [.abandoned c.issued] (c.accept (.empty c.issued))

theorem Coherent.move (h : Coherent c) (e : Event) : Move c (c.notes e) (c.step e) := by
  cases e with
  | search document query handle =>
    by_cases hb : query.isBlank = true
    · have hs : (c.search document query handle).2 =
          { c with issued := c.issued + 1 }.accept (.empty (c.issued + 1)) := by
        simp [Coordinator.search, hb]
      simpa [step, notes, hb, hs] using Move.blank
    · generalize hq : c.nextRequest document query = q
      have hid : q.sequenceId = c.issued + 1 := by rw [← hq]; rfl
      rw [step, search_eq (by simpa using hb) hq h.outstanding_le]
      simpa [notes, hb, hq] using Move.search (handle q).reply (handle q).completed hid
  | send id r =>
    cases hq : c.outstanding? id with
    | none => simpa [step, notes, hq, send_of_none] using Move.rest
    | some q =>
      have hin := (outstanding?_eq_some hq).1
      rw [step, send_of_some hq]
      simpa [notes, hq, useNotes, useOutstanding] using Move.use (.sent r) hin
  | drop id =>
    cases hq : c.outstanding? id with
    | none => simpa [step, notes, hq, drop, send_of_none] using Move.rest
    | some q =>
      obtain ⟨hin, rfl⟩ := outstanding?_eq_some hq
      rw [step, drop, send_of_some hq]
      simpa [notes, hq, useNotes, useOutstanding] using Move.use .dropped hin
  | abandon =>
    cases hp : c.phase with
    | idle => simpa [step, notes, abandon, hp] using Move.rest
    | awaiting =>
      rw [step, abandon_eq_accept]
      simpa [notes, hp] using Move.abandon

theorem Coherent.accept (h : Coherent c) (r : SearchResponse) : Coherent (c.accept r) := by
  unfold Coordinator.accept
  split
  · exact h
  · exact ⟨rfl, h.outstanding_le⟩

theorem Coherent.release (h : Coherent c) (id : Nat) : Coherent (c.release id) where
  published_id := h.published_id
  outstanding_le q hq := h.outstanding_le q (mem_release.mp hq).1

theorem Coherent.use (h : Coherent c) (q : SearchRequest) (use : ReplyUse) :
    Coherent (c.useOutstanding q use) := by
  cases use with
  | sent r => exact (h.release _).accept r
  | dropped => exact (h.release _).accept _
  | kept => exact h

theorem Coherent.issue (h : Coherent c) : Coherent { c with issued := c.issued + 1 } where
  published_id := h.published_id
  outstanding_le q hq := Nat.le_succ_of_le (h.outstanding_le q hq)

theorem Coherent.handOver (h : Coherent c) (hq : q.sequenceId = c.issued + 1) :
    Coherent (c.handOver q) where
  published_id := h.published_id
  outstanding_le q' hq' := by
    rcases List.mem_append.mp hq' with hq' | hq'
    · have := h.outstanding_le q' hq'
      show q'.sequenceId ≤ q.sequenceId
      omega
    · exact Nat.le_of_eq (by rw [List.mem_singleton.mp hq']; rfl)

theorem Coherent.finish (h : Coherent c) (q : SearchRequest) (completed : Bool) :
    Coherent (c.finish q completed) := by
  cases completed with
  | true => exact h
  | false => exact h.accept _

theorem Coherent.of_move (h : Coherent c) (m : Move c ns d) : Coherent d := by
  cases m with
  | rest => exact h
  | blank => exact h.issue.accept _
  | search use completed hq => exact ((h.handOver hq).use _ use).finish _ completed
  | use use hq => exact h.use _ use
  | abandon => exact h.accept _

theorem Coherent.step (h : Coherent c) (e : Event) : Coherent (c.step e) := h.of_move (h.move e)

theorem Coherent.foldl (h : Coherent c) (events : List Event) :
    Coherent (events.foldl Coordinator.step c) := by
  induction events generalizing c with
  | nil => exact h
  | cons e rest ih => exact ih (h.step e)

theorem coherent_run (events : List Event) : Coherent (run events) := coherent_init.foldl events

/-! ## Numbers -/

theorem issued_finish (completed : Bool) : (c.finish q completed).issued = c.issued := by
  cases completed with
  | true => rfl
  | false => exact issued_accept _ _

theorem issued_le_foldl (c : Coordinator) (events : List Event) :
    c.issued ≤ (events.foldl step c).issued := by
  induction events generalizing c with
  | nil => exact Nat.le_refl _
  | cons e rest ih =>
    have hle : c.issued ≤ (c.step e).issued := by
      rw [issued_step]
      omega
    exact Nat.le_trans hle (ih _)

theorem run_append (events more : List Event) :
    run (events ++ more) = more.foldl step (run events) := List.foldl_append

/-- Nothing is awaited, and the published result has the latest number. -/
def SettledLatest (c : Coordinator) : Prop :=
  c.phase = .idle ∧ c.published.sequenceId = c.issued

theorem Coherent.settledLatest_iff (h : Coherent c) : c.SettledLatest ↔ c.settled = c.issued := by
  rw [SettledLatest, phase_eq_idle_iff, h.published_id]
  omega

/-! ## Uses of replies -/

/-- What a search sends, it sends by its use of the reply. -/
theorem sent_mem_searchNotes {q' : SearchRequest} {use : ReplyUse} {completed : Bool} :
    Note.sent q' r ∈ Note.dispatched q :: (useNotes q use ++ failureNotes q completed) ↔
      Note.sent q' r ∈ useNotes q use := by
  cases completed <;> simp [failureNotes]

/-- The response that goes in when the reply of `q` is sent or dropped. -/
def Answers (ns : List Note) (q : SearchRequest) (r : SearchResponse) : Prop :=
  Note.sent q r ∈ ns ∨ Note.dropped q ∈ ns ∧ r = .empty q.sequenceId

theorem answers_useNotes {q' : SearchRequest} {use : ReplyUse}
    (h : Answers (useNotes q' use) q r) :
    q' = q ∧ c.useOutstanding q use = (c.release q.sequenceId).accept r := by
  cases use <;> simp_all [Answers, useNotes, useOutstanding]

theorem answers_searchNotes {q' : SearchRequest} {use : ReplyUse} {completed : Bool} :
    Answers (.dispatched q' :: (useNotes q' use ++ failureNotes q' completed)) q r ↔
      Answers (useNotes q' use) q r := by
  cases completed <;> simp [Answers, failureNotes]

/-- The use of a reply takes it away and takes its response in; then the executor may fail. -/
theorem Move.of_answers (m : Move c ns d) (hr : Answers ns q r) :
    ∃ (before : Coordinator) (completed : Bool), before.issued = d.issued ∧
      before.settled = c.settled ∧ (∀ q' ∈ before.outstanding, q'.sequenceId ≠ q.sequenceId) ∧
      d = (before.accept r).finish q completed ∧ (Note.failed q ∈ ns ↔ completed = false) := by
  cases m with
  | rest | blank | abandon => simp [Answers] at hr
  | @search q' use completed hq =>
    rw [answers_searchNotes] at hr
    obtain ⟨rfl, huse⟩ := answers_useNotes (c := c.handOver q') hr
    refine ⟨(c.handOver q').release q'.sequenceId, completed, ?_, rfl,
      fun q'' hin => (mem_release.mp hin).2, by rw [huse], ?_⟩
    · rw [issued_finish, issued_useOutstanding]
      rfl
    · cases use <;> cases completed <;> simp [useNotes, failureNotes]
  | @use q' use hq =>
    obtain ⟨rfl, huse⟩ := answers_useNotes (c := c) hr
    refine ⟨c.release q'.sequenceId, true, ?_, rfl, fun q'' hin => (mem_release.mp hin).2, huse, ?_⟩
    · rw [issued_useOutstanding]
      rfl
    · cases use <;> simp [useNotes]

/-- The number of a reply has been given out. -/
theorem Move.id_le (h : Coherent c) (m : Move c ns d) (hs : Note.sent q r ∈ ns) :
    q.sequenceId ≤ d.issued := by
  cases m with
  | rest | blank | abandon => simp at hs
  | @search q' use completed hq =>
    obtain ⟨rfl, -⟩ := answers_useNotes (c := c) (Or.inl (sent_mem_searchNotes.mp hs))
    rw [issued_finish, issued_useOutstanding]
    exact Nat.le_refl _
  | @use q' use hq =>
    obtain ⟨rfl, -⟩ := answers_useNotes (c := c) (Or.inl hs)
    rw [issued_useOutstanding]
    exact h.outstanding_le _ hq

/-! ## What is published -/

def standing (c : Coordinator) : Nat × SearchResult := (c.settled, c.published)

theorem settled_of_standing (h : d.standing = c.standing) : d.settled = c.settled :=
  congrArg Prod.fst h

theorem standing_accept (h : r.sequenceId ≤ c.settled) : (c.accept r).standing = c.standing := by
  rw [accept_of_stale (Or.inr h)]

theorem standing_use (hq : q.sequenceId ≤ c.settled) {use : ReplyUse}
    (hr : ∀ q' r, Note.sent q' r ∈ useNotes q use → r.sequenceId ≤ c.settled) :
    (c.useOutstanding q use).standing = c.standing := by
  cases use with
  | sent r => exact standing_accept (c := c.release q.sequenceId) (hr q r (by simp [useNotes]))
  | dropped => exact standing_accept (c := c.release q.sequenceId) hq
  | kept => rfl

theorem standing_finish (hq : q.sequenceId ≤ c.settled) (completed : Bool) :
    (c.finish q completed).standing = c.standing := by
  cases completed with
  | true => rfl
  | false => exact standing_accept hq

end JsonExplorer.Coordinator
