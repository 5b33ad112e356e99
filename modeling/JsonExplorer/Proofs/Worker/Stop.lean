import JsonExplorer.Proofs.Worker.Queue

/-!
What a stop does. A closed worker takes no request and is never opened again, and each turn of its
loop leaves one less to take, whatever callers do in between (`remaining_foldl`): so a stop returns.
By then the worker has answered every request it had taken, once and in order, and the last request
is settled (`taken_requests_are_answered_once`). Without callers in between, closing and the turns
of the loop are the stop of a worker (`foldl_stop`).
-/

namespace JsonExplorer.Service

variable {breaks : SearchRequest → Bool} {s t : Service} {past seen : List Record}

/-! ## Open and closed workers -/

theorem Move.running (m : Move breaks s seen t) (h : t.worker.running = true) :
    s.worker.running = true := by
  cases m with
  | close => simp [Worker.close] at h
  | _ => exact h

theorem Move.closed (m : Move breaks s seen t) (h : s.worker.running = false) :
    t.worker.running = false :=
  Bool.eq_false_iff.mpr fun ht => by simp [m.running ht] at h

/-- Requests are taken as long as the worker runs, and refused from then on. -/
theorem Move.handling (m : Move breaks s seen t) {q : SearchRequest} {handling : Handling}
    (h : .dispatched q handling ∈ seen) :
    handling = if s.worker.running then ⟨.kept, true⟩ else ⟨.dropped, false⟩ := by
  cases m with
  | refuse _ closed => simp_all
  | enqueue _ running => simp_all
  | _ => simp at h

theorem running_of_foldl {events : List Event}
    (h : (events.foldl (step breaks) s).worker.running = true) : s.worker.running = true := by
  induction events generalizing s with
  | nil => exact h
  | cons e rest ih => exact (move breaks s e).running (ih h)

theorem closed_foldl (h : s.worker.running = false) (events : List Event) :
    (events.foldl (step breaks) s).worker.running = false := by
  induction events generalizing s with
  | nil => exact h
  | cons e rest ih => exact ih ((move breaks s e).closed h)

theorem kept_of_running {events : List Event}
    (h : (events.foldl (step breaks) s).worker.running = true) {q : SearchRequest}
    {handling : Handling} (hq : .dispatched q handling ∈ s.history breaks events) :
    handling = ⟨.kept, true⟩ := by
  induction events generalizing s with
  | nil => simp [history] at hq
  | cons e rest ih =>
    rcases List.mem_append.mp hq with hq | hq
    · have hs := (move breaks s e).running (running_of_foldl h)
      rw [(move breaks s e).handling hq, if_pos hs]
    · exact ih h hq

theorem dropped_of_closed {events : List Event} (h : s.worker.running = false) {q : SearchRequest}
    {handling : Handling} (hq : .dispatched q handling ∈ s.history breaks events) :
    handling = ⟨.dropped, false⟩ := by
  induction events generalizing s with
  | nil => simp [history] at hq
  | cons e rest ih =>
    rcases List.mem_append.mp hq with hq | hq
    · rw [(move breaks s e).handling hq, h, if_neg Bool.false_ne_true]
    · exact ih ((move breaks s e).closed h) hq

theorem accepted_of_closed (h : s.worker.running = false) (events : List Event) :
    accepted (s.history breaks events) = [] := by
  rw [accepted, List.filterMap_eq_nil_iff]
  intro r hr
  cases r with
  | dispatched q handling => rw [dropped_of_closed h hr]; rfl
  | sent q r => rfl

/-! ## Turns -/

def Event.isTurn : Event → Bool
  | .turn => true
  | _ => false

/-- The turns that the loop of the worker still has to take: two for each job in the queue, and one
for the job it has taken. -/
def remaining (s : Service) : Nat := 2 * s.worker.jobs.length + s.current.toList.length

theorem remaining_eq_zero_iff : s.remaining = 0 ↔ s.waiting = [] := by
  have hjobs : 2 * s.worker.jobs.length = 0 ↔ s.worker.jobs = [] := by
    rw [← List.length_eq_zero_iff]
    omega
  rw [remaining, Nat.add_eq_zero_iff, hjobs, List.length_eq_zero_iff, waiting,
    List.append_eq_nil_iff, and_comm]

theorem remaining_turn (s : Service) : (s.turn breaks).remaining = s.remaining - 1 := by
  cases hc : s.current with
  | some q =>
    rw [turn_of_current hc]
    simp [remaining, reply, hc]
  | none =>
    cases hj : s.worker.jobs with
    | nil =>
      rw [turn_of_idle hc hj]
      simp [remaining, hc, hj]
    | cons q rest =>
      rw [turn_of_jobs hc hj]
      simp only [remaining, take, hc, hj, List.length_cons, Option.toList_some, Option.toList_none,
        List.length_nil]
      omega

/-- Whoever else does something leaves the closed worker with as much to do. -/
theorem remaining_step (h : s.worker.running = false) (e : Event) :
    (s.step breaks e).remaining = s.remaining - if e.isTurn then 1 else 0 := by
  cases e with
  | call | close => rfl
  | dispatch id =>
    cases hq : s.call? id with
    | none => simp [step, hq, Event.isTurn]
    | some q => simp [step, hq, Event.isTurn, proceed, Worker.dispatch, h, remaining]
  | turn => exact remaining_turn s

theorem remaining_foldl (h : s.worker.running = false) (events : List Event) :
    (events.foldl (step breaks) s).remaining = s.remaining - events.countP Event.isTurn := by
  induction events generalizing s with
  | nil => rfl
  | cons e rest ih =>
    rw [List.foldl_cons, ih ((move breaks s e).closed h), remaining_step h, List.countP_cons]
    omega

/-! ## A stop -/

/-- Taking turns until the queue is empty is draining it. -/
theorem foldl_turns (hcurrent : s.current = none) :
    (List.replicate (2 * s.worker.jobs.length) .turn).foldl (step breaks) s =
      { s with
        worker := (s.worker.drain (attempt breaks) s.coordinator).1
        coordinator := (s.worker.drain (attempt breaks) s.coordinator).2 } := by
  generalize hjobs : s.worker.jobs = jobs
  induction jobs generalizing s with
  | nil =>
    obtain ⟨c, ⟨running, jobs⟩, calls, current⟩ := s
    subst hjobs
    rfl
  | cons q rest ih =>
    -- the loop takes the oldest job and answers it
    have htwo : ((s.turn breaks).turn breaks) = (s.take q rest).reply breaks q := by
      rw [turn_of_jobs hcurrent hjobs, turn_of_current rfl]
    have hmore : 2 * (q :: rest).length = 2 * rest.length + 1 + 1 := by
      rw [List.length_cons]
      omega
    rw [hmore, List.replicate_succ, List.replicate_succ, List.foldl_cons, List.foldl_cons, step,
      step, htwo, ih rfl rfl]
    simp [reply, take, Worker.drain, hjobs, hcurrent, worker_answer]

/-- Closing the worker and letting its loop take its turns is stopping it. -/
theorem foldl_stop (hcurrent : s.current = none) :
    (.close :: List.replicate (2 * s.worker.jobs.length) .turn).foldl (step breaks) s =
      { s with
        worker := (s.worker.stop (attempt breaks) s.coordinator).1
        coordinator := (s.worker.stop (attempt breaks) s.coordinator).2 } := by
  have hclosed : { s with worker := s.worker.close }.current = none := hcurrent
  rw [List.foldl_cons]
  exact foldl_turns hclosed

/-- A closed worker is left as it is by closing it again. -/
theorem step_close (h : s.worker.running = false) : s.step breaks .close = s := by
  obtain ⟨c, ⟨running, jobs⟩, calls, current⟩ := s
  subst h
  rfl

/-- Nothing is left for another stop. -/
theorem stop_of_waiting (hclosed : s.worker.running = false) (h : s.waiting = []) :
    s.worker.stop (attempt breaks) s.coordinator = (s.worker, s.coordinator) := by
  obtain ⟨c, ⟨running, jobs⟩, calls, current⟩ := s
  obtain ⟨-, hjobs⟩ := List.append_eq_nil_iff.mp h
  subst hclosed hjobs
  rfl

/-! ## What has become of the requests -/

/-- The requests taken, with their answers, are the replies sent and those that are due. -/
theorem Kept.replies_append_due (h : Kept breaks past s) :
    (accepted past).map (fun q => (q, answer breaks q)) =
      replies past ++ s.waiting.map (fun q => (q, answer breaks q)) := by
  have hreplies : (replies past).map (fun p => (p.1, answer breaks p.1)) = replies past := by
    conv_rhs => rw [← List.map_id (replies past)]
    exact List.map_congr_left fun p hp => Prod.ext rfl (h.answered p hp).symm
  rw [h.accounted, List.map_append, List.map_map]
  exact congrArg (· ++ _) hreplies

theorem Kept.nodup_accepted (h : Kept breaks past s) :
    ((accepted past).map (·.sequenceId)).Nodup := by
  have hnodup := h.nodup
  rw [List.map_append, List.nodup_append] at hnodup
  exact hnodup.2.1

/-- When nobody waits and nobody is on the way, the last request is settled. -/
theorem Kept.phase_eq_idle (h : Kept breaks past s) (hcalls : s.calls = [])
    (hwaiting : s.waiting = []) : s.coordinator.phase = .idle := by
  rw [Coordinator.phase_eq_idle_iff]
  by_contra hlt
  obtain ⟨q, hq, -⟩ := h.settles.awaited (Nat.lt_of_not_le hlt)
  simp [hcalls, hwaiting] at hq

/-- By then the result of the last request is published: its answer if the worker has taken it, and
otherwise an empty one. -/
theorem Kept.published (h : Kept breaks past s) (hcalls : s.calls = [])
    (hwaiting : s.waiting = []) :
    (∀ q ∈ accepted past, q.sequenceId = s.coordinator.issued →
      s.coordinator.published = .ofResponse (answer breaks q)) ∧
    ((∀ q ∈ accepted past, q.sequenceId ≠ s.coordinator.issued) →
      s.coordinator.published = .ofResponse (.empty s.coordinator.issued)) := by
  have hsettled : s.coordinator.settled = s.coordinator.issued :=
    Nat.le_antisymm h.settles.settled_le
      ((Coordinator.phase_eq_idle_iff _).mp (h.phase_eq_idle hcalls hwaiting))
  have hresult := h.settles.published
  rw [hsettled] at hresult
  rcases hresult with ⟨q, hq, hid, hresult⟩ | ⟨hresult, hnone⟩
  · have hin : q ∈ accepted past := by
      rw [h.accounted]
      exact List.mem_append_left _ (List.mem_map_of_mem hq)
    refine ⟨fun q' hq' hid' => ?_, fun hnone => absurd hid (hnone q hin)⟩
    rw [List.inj_on_of_nodup_map h.nodup_accepted hq' hin (hid'.trans hid.symm)]
    exact hresult
  · exact ⟨fun q hq hid => absurd hid (hnone q (List.mem_append_right _ hq)), fun _ => hresult⟩

/-- **No request is lost and none is answered twice.** However callers, the turns of the loop and a
stop are interleaved, the replies sent are those of the requests taken so far, in the order in which
they came, each with what its search gives, and the requests still to be answered are those that
wait. An open worker takes every request. A closed one refuses every request and drops its reply,
and is left as it is by closing it again; its loop ends after a known number of turns, whoever comes
in between. By then every request taken has been answered, nothing is outstanding, and a coordinator
of which no call is on its way is idle with the result of the last request. -/
theorem taken_requests_are_answered_once (breaks : SearchRequest → Bool) (events : List Event) :
    let s := run breaks events
    let past := history breaks {} events
    (accepted past).map (fun q => (q, answer breaks q)) =
        replies past ++ s.waiting.map (fun q => (q, answer breaks q)) ∧
      ((accepted past).map (·.sequenceId)).Nodup ∧
      s.coordinator.outstanding = s.waiting ∧
      (s.worker.running = true →
        ∀ q handling, .dispatched q handling ∈ past → handling = ⟨.kept, true⟩) ∧
      (s.current = none →
        (.close :: List.replicate (2 * s.worker.jobs.length) .turn).foldl (step breaks) s =
          { s with
            worker := (s.worker.stop (attempt breaks) s.coordinator).1
            coordinator := (s.worker.stop (attempt breaks) s.coordinator).2 }) ∧
      (s.worker.running = false →
        s.step breaks .close = s ∧
        ∀ later : List Event,
          let t := later.foldl (step breaks) s
          let after := s.history breaks later
          (∀ q handling, .dispatched q handling ∈ after → handling = ⟨.dropped, false⟩) ∧
          (t.waiting = [] ↔ s.remaining ≤ later.countP Event.isTurn) ∧
          (t.waiting = [] →
            replies (past ++ after) = (accepted past).map (fun q => (q, answer breaks q)) ∧
            t.coordinator.outstanding = [] ∧
            t.worker.stop (attempt breaks) t.coordinator = (t.worker, t.coordinator) ∧
            (t.calls = [] →
              t.coordinator.phase = .idle ∧
              (∀ q ∈ accepted past, q.sequenceId = t.coordinator.issued →
                t.coordinator.published = .ofResponse (answer breaks q)) ∧
              ((∀ q ∈ accepted past, q.sequenceId ≠ t.coordinator.issued) →
                t.coordinator.published = .ofResponse (.empty t.coordinator.issued))))) := by
  intro s past
  have hs : Kept breaks past s := kept_run breaks events
  refine ⟨hs.replies_append_due, hs.nodup_accepted, hs.outstanding,
    fun hrunning q handling => kept_of_running hrunning, foldl_stop,
    fun hclosed => ⟨step_close hclosed, fun later => ?_⟩⟩
  intro t after
  have ht : Kept breaks (past ++ after) t := hs.foldl later
  have htclosed : t.worker.running = false := closed_foldl hclosed later
  have haccepted : accepted (past ++ after) = accepted past := by
    rw [accepted_append, accepted_of_closed hclosed, List.append_nil]
  refine ⟨fun q handling => dropped_of_closed hclosed, ?_, fun hdone => ?_⟩
  · rw [← remaining_eq_zero_iff, remaining_foldl hclosed, Nat.sub_eq_zero_iff_le]
  · have hsent := ht.replies_append_due
    rw [haccepted, hdone, List.map_nil, List.append_nil] at hsent
    refine ⟨hsent.symm, ht.outstanding.trans hdone, stop_of_waiting htclosed hdone,
      fun hcalls => ?_⟩
    have hpublished := ht.published hcalls hdone
    rw [haccepted] at hpublished
    exact ⟨ht.phase_eq_idle hcalls hdone, hpublished⟩

/-- Two calls that come to the worker in the wrong order, the first of which breaks down there, and
a third one that comes after the stop. -/
theorem taken_requests_are_answered_once_around_a_stop :
    let query : Query := { term := "b" }
    let request (id : Nat) : SearchRequest := ⟨id, .string "b", query⟩
    let breaks (q : SearchRequest) : Bool := q.sequenceId == 2
    let events : List Event := [.call (.string "b") query, .call (.string "b") query, .dispatch 2,
      .dispatch 1, .turn, .close]
    let later : List Event := [.call (.string "b") query, .dispatch 3, .turn, .turn, .turn]
    let s := run breaks events
    let t := later.foldl (step breaks) s
    s.waiting = [request 2, request 1] ∧
      replies (history breaks {} events ++ s.history breaks later) =
        [(request 2, .empty 2), (request 1, Search.execute (request 1))] ∧
      t.coordinator.phase = .idle ∧ t.coordinator.published = .ofResponse (.empty 3) := by
  intro query request breaks events later s t
  have hblank : query.isBlank = false := by decide +kernel
  obtain ⟨-, -, -, -, -, hstopped⟩ := taken_requests_are_answered_once breaks events
  have hs : s = ⟨{ issued := 2, outstanding := [request 2, request 1] }, ⟨false, [request 1]⟩, [],
      some (request 2)⟩ := by
    simp [s, run, events, step, call, call?, callsWithout, proceed, turn, Worker.close,
      Coordinator.nextRequest, Coordinator.conduct, Coordinator.useReply, Coordinator.finish,
      Worker.dispatch, Worker.handling, hblank, request]
  have hpast : history breaks {} events =
      [.dispatched (request 2) ⟨.kept, true⟩, .dispatched (request 1) ⟨.kept, true⟩] := by
    simp [events, history, records, step, call, call?, callsWithout, proceed,
      Coordinator.nextRequest, Coordinator.conduct, Coordinator.useReply, Coordinator.finish,
      Worker.dispatch, Worker.handling, hblank, request]
  have haccepted : accepted (history breaks {} events) = [request 2, request 1] := by
    simp [hpast, accepted, Record.accepted?]
  obtain ⟨-, hlater⟩ := hstopped (congrArg (·.worker.running) hs)
  obtain ⟨-, hended, hdone⟩ := hlater later
  have hturns : s.remaining ≤ later.countP Event.isTurn := by
    rw [hs]
    decide
  obtain ⟨hreplies, -, -, hidle⟩ := hdone (hended.mpr hturns)
  have ht : t.calls = [] ∧ t.coordinator.issued = 3 := by
    simp [t, hs, later, step, call, call?, callsWithout, proceed, turn, Coordinator.nextRequest,
      Coordinator.conduct, Coordinator.useReply, Coordinator.finish, Worker.handling,
      Worker.dispatch, Coordinator.issued_accept, Coordinator.issued_send, hblank, request]
  obtain ⟨hphase, -, hnone⟩ := hidle ht.1
  have hissued : (later.foldl (step breaks) (run breaks events)).coordinator.issued = 3 := ht.2
  rw [haccepted] at hreplies hnone
  rw [hissued] at hnone
  exact ⟨congrArg waiting hs, hreplies, hphase, hnone (by simp [request])⟩

end JsonExplorer.Service
