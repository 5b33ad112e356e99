import JsonExplorer.Proofs.Worker.Service
import Mathlib.Data.List.Nodup

/-!
A worker loses no request and answers none twice. Whatever callers, the loop of the worker and the
one who closes it do and in whatever order, the requests that were taken are those that have been
answered, in this order, followed by those that wait. This and what it takes to know the result of
the last request is `Kept`, which every step keeps (`Kept.of_move`) and so every run (`kept_run`).
-/

namespace JsonExplorer.Service

open Coordinator (outstanding?_eq_some send_of_some mem_release)

variable {breaks : SearchRequest → Bool} {s t : Service} {past seen : List Record}

/-! ## Settled numbers -/

/-- The coordinator has a `right` result for the number it has settled, and awaits the latest number
only if a request of this number is due. -/
structure Settles (due : List SearchRequest) (right : Nat → SearchResult → Prop)
    (c : Coordinator) : Prop where
  settled_le : c.settled ≤ c.issued
  awaited : c.settled < c.issued → ∃ q ∈ due, q.sequenceId = c.issued
  published : right c.settled c.published

variable {due due' : List SearchRequest} {right right' : Nat → SearchResult → Prop}
  {c : Coordinator}

theorem Settles.mono (h : Settles due right c) (hdue : ∀ q ∈ due, q ∈ due')
    (hright : ∀ n result, right n result → right' n result) : Settles due' right' c where
  settled_le := h.settled_le
  awaited hw := by
    obtain ⟨q, hq, hid⟩ := h.awaited hw
    exact ⟨q, hdue q hq, hid⟩
  published := hright _ _ h.published

theorem Settles.release (h : Settles due right c) (id : Nat) :
    Settles due right (c.release id) :=
  ⟨h.settled_le, h.awaited, h.published⟩

/-- A request is due no longer once a response of its number was taken in. -/
theorem Settles.accept (h : Settles due right c) {r : SearchResponse}
    (hr : r.sequenceId ≤ c.issued) (hdue : ∀ q ∈ due, q.sequenceId ≠ r.sequenceId → q ∈ due')
    (hright : right r.sequenceId (.ofResponse r)) : Settles due' right (c.accept r) := by
  rcases Coordinator.accept_cases hr with ⟨he, hstale⟩ | ⟨he, hid⟩
  · rw [he]
    refine ⟨h.settled_le, fun hw => ?_, h.published⟩
    obtain ⟨q, hq, hlatest⟩ := h.awaited hw
    exact ⟨q, hdue q hq (by omega), hlatest⟩
  · rw [he]
    exact ⟨Nat.le_refl _, fun hw => absurd hw (Nat.lt_irrefl _), hid ▸ hright⟩

/-! ## What is kept -/

/-- The result of a number: what was sent for the request of this number that the worker has taken,
or an empty one if there is no such request. -/
def ResultOf (breaks : SearchRequest → Bool) (past : List Record) (calls : List SearchRequest)
    (n : Nat) (result : SearchResult) : Prop :=
  (∃ q, (q, answer breaks q) ∈ replies past ∧ q.sequenceId = n ∧
    result = .ofResponse (answer breaks q)) ∨
  (result = .ofResponse (.empty n) ∧ ∀ q ∈ calls ++ accepted past, q.sequenceId ≠ n)

/-- What every step keeps. The outstanding replies are those of the requests that wait; the requests
that were taken have been answered or wait, in their order; and no number is given out twice. -/
structure Kept (breaks : SearchRequest → Bool) (past : List Record) (s : Service) : Prop where
  outstanding : s.coordinator.outstanding = s.waiting
  accounted : accepted past = (replies past).map (·.1) ++ s.waiting
  answered : ∀ p ∈ replies past, p.2 = answer breaks p.1
  nodup : ((s.calls ++ accepted past).map (·.sequenceId)).Nodup
  le_issued : ∀ q ∈ s.calls ++ accepted past, q.sequenceId ≤ s.coordinator.issued
  settles : Settles (s.calls ++ s.waiting) (ResultOf breaks past s.calls) s.coordinator

theorem kept_init : Kept breaks [] {} where
  outstanding := rfl
  accounted := rfl
  answered p hp := by simp [replies] at hp
  nodup := by simp [accepted]
  le_issued q hq := by simp [accepted] at hq
  settles := ⟨Nat.le_refl _, fun hw => absurd hw (Nat.lt_irrefl _),
    Or.inr ⟨rfl, fun q hq => by simp [accepted] at hq⟩⟩

theorem mem_callsWithout {q q' : SearchRequest} :
    q' ∈ s.callsWithout q ↔ q' ∈ s.calls ∧ q'.sequenceId ≠ q.sequenceId := by
  simp [callsWithout]

/-- A call that goes on is the only one of its number. -/
theorem Kept.perm_callsWithout (h : Kept breaks past s) {q : SearchRequest} (hq : q ∈ s.calls) :
    s.calls.Perm (q :: s.callsWithout q) := by
  have hnodup : (s.calls.map (·.sequenceId)).Nodup := by
    have := h.nodup
    rw [List.map_append, List.nodup_append] at this
    exact this.1
  obtain ⟨before, after, hcalls⟩ := List.append_of_mem hq
  have hothers : s.callsWithout q = before ++ after := by
    rw [hcalls, List.map_append, List.map_cons, List.nodup_middle, List.nodup_cons,
      ← List.map_append] at hnodup
    have hne : ∀ q' ∈ before ++ after, q'.sequenceId ≠ q.sequenceId := fun q' hq' he =>
      hnodup.1 (he ▸ List.mem_map_of_mem hq')
    rw [callsWithout, hcalls, List.filter_append, List.filter_cons_of_neg (by simp),
      ← List.filter_append]
    exact List.filter_eq_self.mpr fun q' hq' => by simpa using hne q' hq'
  rw [hothers, hcalls]
  exact List.perm_middle

/-- It is taken away from the calls and put behind any others. -/
theorem Kept.perm_behind (h : Kept breaks past s) {q : SearchRequest} (hq : q ∈ s.calls)
    (others : List SearchRequest) :
    (s.callsWithout q ++ (others ++ [q])).Perm (s.calls ++ others) := by
  refine List.Perm.trans ?_ ((h.perm_callsWithout hq).symm.append_right others)
  rw [← List.append_assoc]
  exact List.perm_append_singleton q _

theorem Kept.waiting_accepted (h : Kept breaks past s) {q : SearchRequest} (hq : q ∈ s.waiting) :
    q ∈ accepted past := by
  rw [h.accounted]
  exact List.mem_append_right _ hq

/-! ## Single moves -/

theorem ResultOf.mono {calls calls' : List SearchRequest} {past past' : List Record} {n : Nat}
    {result : SearchResult} (h : ResultOf breaks past calls n result)
    (hreplies : ∀ p ∈ replies past, p ∈ replies past')
    (hnone : ∀ q ∈ calls' ++ accepted past', q ∈ calls ++ accepted past ∨ q.sequenceId ≠ n) :
    ResultOf breaks past' calls' n result := by
  rcases h with ⟨q, hq, hid, hresult⟩ | ⟨hresult, hne⟩
  · exact Or.inl ⟨q, hreplies _ hq, hid, hresult⟩
  · refine Or.inr ⟨hresult, fun q hq => ?_⟩
    rcases hnone q hq with hold | hid
    · exact hne q hold
    · exact hid

theorem Kept.call (h : Kept breaks past s) (document : Value) (query : Query) :
    Kept breaks past (s.call document query) := by
  have hnew : ∀ q ∈ s.calls ++ accepted past, q.sequenceId ≠ s.coordinator.issued + 1 :=
    fun q hq => by
      have := h.le_issued q hq
      omega
  have hperm : (s.calls ++ [s.coordinator.nextRequest document query] ++ accepted past).Perm
      (s.coordinator.nextRequest document query :: (s.calls ++ accepted past)) := by
    rw [List.append_assoc]
    exact List.perm_middle
  exact
    { outstanding := h.outstanding
      accounted := h.accounted
      answered := h.answered
      nodup := by
        refine ((hperm.map _).nodup_iff).mpr (List.nodup_cons.mpr ⟨fun hin => ?_, h.nodup⟩)
        obtain ⟨q, hq, hid⟩ := List.mem_map.mp hin
        exact hnew q hq hid
      le_issued := fun q hq => by
        rcases List.mem_cons.mp (hperm.mem_iff.mp hq) with rfl | hq
        · exact Nat.le_refl _
        · exact Nat.le_succ_of_le (h.le_issued q hq)
      settles :=
        { settled_le := Nat.le_succ_of_le h.settles.settled_le
          awaited := fun _ =>
            ⟨s.coordinator.nextRequest document query, by simp [Service.call], rfl⟩
          published := h.settles.published.mono (fun _ hp => hp) fun q hq => by
            rcases List.mem_cons.mp (hperm.mem_iff.mp hq) with rfl | hq
            · have := h.settles.settled_le
              exact Or.inr (by show s.coordinator.issued + 1 ≠ s.coordinator.settled; omega)
            · exact Or.inl hq } }

theorem Kept.enqueue (h : Kept breaks past s) {q : SearchRequest} (hq : q ∈ s.calls) :
    Kept breaks (past ++ [.dispatched q ⟨.kept, true⟩]) (s.enqueue q) := by
  have haccepted : accepted (past ++ [.dispatched q ⟨.kept, true⟩]) = accepted past ++ [q] := by
    simp [accepted, Record.accepted?]
  have hreplies : replies (past ++ [.dispatched q ⟨.kept, true⟩]) = replies past := by
    simp [replies, Record.sent?]
  have hperm := h.perm_behind hq (accepted past)
  have hdue := h.perm_behind hq s.waiting
  exact
    { outstanding := by
        rw [waiting_enqueue, ← h.outstanding]
        rfl
      accounted := by
        rw [haccepted, hreplies, waiting_enqueue, h.accounted, List.append_assoc]
      answered := hreplies ▸ h.answered
      nodup := by
        rw [haccepted]
        exact ((hperm.map _).nodup_iff).mpr h.nodup
      le_issued := fun q' hq' => by
        rw [haccepted] at hq'
        exact h.le_issued q' (hperm.mem_iff.mp hq')
      settles := by
        rw [waiting_enqueue]
        refine ⟨h.settles.settled_le, fun hw => ?_, ?_⟩
        · obtain ⟨q', hq', hid⟩ := h.settles.awaited hw
          exact ⟨q', hdue.mem_iff.mpr hq', hid⟩
        · refine h.settles.published.mono (fun p hp => hreplies ▸ hp) fun q' hq' => Or.inl ?_
          rw [haccepted] at hq'
          exact hperm.mem_iff.mp hq' }

theorem Kept.settle (h : Kept breaks past s) {q : SearchRequest} (hq : q ∈ s.calls)
    (hseen : seen = [] ∨ seen = [.dispatched q ⟨.dropped, false⟩]) :
    Kept breaks (past ++ seen) (s.settle q) := by
  have haccepted : accepted (past ++ seen) = accepted past := by
    rcases hseen with rfl | rfl <;> simp [accepted, Record.accepted?]
  have hreplies : replies (past ++ seen) = replies past := by
    rcases hseen with rfl | rfl <;> simp [replies, Record.sent?]
  have hperm : (q :: (s.callsWithout q ++ accepted past)).Perm (s.calls ++ accepted past) :=
    (h.perm_callsWithout hq).symm.append_right (accepted past)
  have hold : ∀ q' ∈ s.callsWithout q ++ accepted past, q' ∈ s.calls ++ accepted past :=
    fun q' hq' => hperm.mem_iff.mp (List.mem_cons_of_mem _ hq')
  have hnodup := ((hperm.map (·.sequenceId)).nodup_iff).mpr h.nodup
  rw [List.map_cons, List.nodup_cons] at hnodup
  exact
    { outstanding := (Coordinator.outstanding_accept _ _).trans h.outstanding
      accounted := by
        rw [haccepted, hreplies]
        exact h.accounted
      answered := hreplies ▸ h.answered
      nodup := by
        rw [haccepted]
        exact hnodup.2
      le_issued := fun q' hq' => by
        rw [haccepted] at hq'
        have hle := h.le_issued q' (hold q' hq')
        rwa [← Coordinator.issued_accept] at hle
      settles := by
        have hbefore : Settles (s.calls ++ s.waiting)
            (ResultOf breaks (past ++ seen) (s.callsWithout q)) s.coordinator :=
          h.settles.mono (fun _ hq' => hq') fun n result hresult =>
            hresult.mono (fun p hp => hreplies ▸ hp) fun q' hq' =>
              Or.inl (hold q' (haccepted ▸ hq'))
        refine hbefore.accept (h.le_issued q (List.mem_append_left _ hq)) (fun q' hq' hne => ?_)
          (Or.inr ⟨rfl, fun q' hq' he => ?_⟩)
        · rcases List.mem_append.mp hq' with hcall | hwait
          · exact List.mem_append_left _ (mem_callsWithout.mpr ⟨hcall, hne⟩)
          · exact List.mem_append_right _ hwait
        · rw [haccepted] at hq'
          exact hnodup.1 (List.mem_map.mpr ⟨q', hq', he⟩) }

theorem Kept.nodup_waiting (h : Kept breaks past s) : (s.waiting.map (·.sequenceId)).Nodup := by
  have hnodup := h.nodup
  rw [h.accounted, ← List.append_assoc, List.map_append, List.nodup_append] at hnodup
  exact hnodup.2.1

/-- The reply of the job that was taken is the first one outstanding. -/
theorem Kept.outstanding_cons (h : Kept breaks past s) {q : SearchRequest}
    (hcurrent : s.current = some q) :
    s.coordinator.outstanding = q :: (s.reply breaks q).waiting := by
  rw [h.outstanding, waiting_reply hcurrent]

theorem Kept.outstanding?_current (h : Kept breaks past s) {q : SearchRequest}
    (hcurrent : s.current = some q) : s.coordinator.outstanding? q.sequenceId = some q := by
  simp [Coordinator.outstanding?, h.outstanding_cons hcurrent]

/-- Its number is not that of any other. -/
theorem Kept.outstanding_release (h : Kept breaks past s) {q : SearchRequest}
    (hcurrent : s.current = some q) :
    (s.coordinator.release q.sequenceId).outstanding = (s.reply breaks q).waiting := by
  have hwaiting : s.waiting = q :: (s.reply breaks q).waiting := waiting_reply hcurrent
  have hnodup := h.nodup_waiting
  rw [hwaiting, List.map_cons, List.nodup_cons] at hnodup
  have hne : ∀ q' ∈ (s.reply breaks q).waiting, q'.sequenceId ≠ q.sequenceId := fun q' hq' he =>
    hnodup.1 (List.mem_map.mpr ⟨q', hq', he⟩)
  rw [Coordinator.release, h.outstanding_cons hcurrent, List.filter_cons_of_neg (by simp)]
  exact List.filter_eq_self.mpr fun q' hq' => by simpa using hne q' hq'

theorem Kept.reply (h : Kept breaks past s) {q : SearchRequest} (hcurrent : s.current = some q) :
    Kept breaks
      (past ++ (s.coordinator.outstanding? q.sequenceId).toList.map fun q =>
        .sent q (answer breaks q))
      (s.reply breaks q) := by
  have hfound := h.outstanding?_current hcurrent
  have hwaiting : s.waiting = q :: (s.reply breaks q).waiting := waiting_reply hcurrent
  have hsend : (s.reply breaks q).coordinator =
      (s.coordinator.release q.sequenceId).accept (answer breaks q) := send_of_some hfound _
  have haccepted : accepted (past ++ [.sent q (answer breaks q)]) = accepted past := by
    simp [accepted, Record.accepted?]
  have hreplies : replies (past ++ [.sent q (answer breaks q)]) =
      replies past ++ [(q, answer breaks q)] := by
    simp [replies, Record.sent?]
  have hin : q ∈ accepted past := h.waiting_accepted (by rw [hwaiting]; exact List.mem_cons_self)
  simp only [hfound, Option.toList_some, List.map_cons, List.map_nil]
  exact
    { outstanding := by
        rw [hsend, Coordinator.outstanding_accept, h.outstanding_release hcurrent]
      accounted := by
        rw [haccepted, hreplies, h.accounted, hwaiting]
        simp
      answered := fun p hp => by
        rw [hreplies] at hp
        rcases List.mem_append.mp hp with hp | hp
        · exact h.answered p hp
        · rw [List.mem_singleton.mp hp]
      nodup := haccepted ▸ h.nodup
      le_issued := fun q' hq' => by
        rw [haccepted] at hq'
        rw [hsend, Coordinator.issued_accept]
        exact h.le_issued q' hq'
      settles := by
        have hbefore : Settles (s.calls ++ s.waiting)
            (ResultOf breaks (past ++ [.sent q (answer breaks q)]) s.calls)
            (s.coordinator.release q.sequenceId) := by
          refine (h.settles.mono (fun _ hq' => hq') fun n result hresult => ?_).release _
          exact hresult.mono (fun p hp => hreplies ▸ List.mem_append_left _ hp) fun q' hq' =>
            Or.inl (haccepted ▸ hq')
        rw [hsend]
        refine hbefore.accept ?_ (fun q' hq' hne => ?_)
          (Or.inl ⟨q, ?_, (sequenceId_answer breaks q).symm, rfl⟩)
        · rw [sequenceId_answer]
          exact h.le_issued q (List.mem_append_right _ hin)
        · rw [sequenceId_answer] at hne
          rw [hwaiting] at hq'
          simp only [List.mem_append, List.mem_cons] at hq' ⊢
          rcases hq' with hcall | rfl | hwait
          · exact Or.inl hcall
          · exact absurd rfl hne
          · exact Or.inr hwait
        · rw [hreplies]
          exact List.mem_append_right _ (List.mem_singleton_self _) }

theorem Kept.take (h : Kept breaks past s) {q : SearchRequest} {rest : List SearchRequest}
    (hcurrent : s.current = none) (hjobs : s.worker.jobs = q :: rest) :
    Kept breaks past (s.take q rest) := by
  have hwaiting := waiting_take hcurrent hjobs
  exact
    { outstanding := hwaiting ▸ h.outstanding
      accounted := hwaiting ▸ h.accounted
      answered := h.answered
      nodup := h.nodup
      le_issued := h.le_issued
      settles := hwaiting ▸ h.settles }

theorem Kept.close (h : Kept breaks past s) :
    Kept breaks past { s with worker := s.worker.close } :=
  ⟨h.outstanding, h.accounted, h.answered, h.nodup, h.le_issued, h.settles⟩

/-- **One step.** -/
theorem Kept.of_move (h : Kept breaks past s) (m : Move breaks s seen t) :
    Kept breaks (past ++ seen) t := by
  cases m with
  | rest => simpa using h
  | call document query => simpa using h.call document query
  | blank hq => exact h.settle hq (Or.inl rfl)
  | refuse hq => exact h.settle hq (Or.inr rfl)
  | enqueue hq => exact h.enqueue hq
  | take hcurrent hjobs => simpa using h.take hcurrent hjobs
  | reply hcurrent => exact h.reply hcurrent
  | close => simpa using h.close

/-- **A run.** -/
theorem Kept.foldl (h : Kept breaks past s) (events : List Event) :
    Kept breaks (past ++ s.history breaks events) (events.foldl (step breaks) s) := by
  induction events generalizing past s with
  | nil => simpa [history] using h
  | cons e rest ih =>
    rw [history, ← List.append_assoc]
    exact ih (h.of_move (move breaks s e))

theorem kept_run (breaks : SearchRequest → Bool) (events : List Event) :
    Kept breaks (history breaks {} events) (run breaks events) :=
  kept_init.foldl events

end JsonExplorer.Service
