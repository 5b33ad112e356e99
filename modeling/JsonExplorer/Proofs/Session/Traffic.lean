import JsonExplorer.Proofs.Coordinator.History
import JsonExplorer.Session

/-!
A session seen from its coordinator. Whatever happens to a session reaches the coordinator as a few
events of its own (`requests`), so that the coordinator of a session's run has a run behind it
(`coordinator_run`) and every property of coordinators holds for it.
-/

namespace JsonExplorer.Session

/-- A session as it is opened, on a coordinator that has done nothing yet. -/
def fresh (rootTypeName : String) (previewLimit : Nat) : Session :=
  { rootTypeName := rootTypeName, previewLimit := previewLimit }

/-- The search that a change to `document` sets off: none while the query is blank. -/
def reissue (s : Session) (document : Option Value) (handle : SearchRequest → Handling) :
    List Coordinator.Event :=
  if s.query.isBlank then [] else [.search (document.getD .null) s.query handle]

/-- What an event of the session means for its coordinator. -/
def requests (s : Session) : Event → List Coordinator.Event
  | .setText text handle => s.reissue (decode text).toOption handle
  | .setDocument document handle => s.reissue (some document) handle
  | .search query handle => [.search s.value query handle]
  | .wait limited => if limited then [.abandon] else []
  | .send id r => [.send id r]
  | .drop id => [.drop id]
  | _ => []

def traffic (s : Session) : List Event → List Coordinator.Event
  | [] => []
  | e :: rest => s.requests e ++ (s.step e).traffic rest

def history (s : Session) (events : List Event) : List Coordinator.Note :=
  s.coordinator.history (s.traffic events)

def valueAfter (s : Session) : Event → Value
  | .setText text _ => (decode text).toOption.getD .null
  | .setDocument document _ => document
  | _ => s.value

def queryAfter (s : Session) : Event → Query
  | .search query _ => query
  | _ => s.query

/-! ## Single operations -/

/-- The part of a session that decides what is searched, and for what. -/
def inquiry (s : Session) : Coordinator × Value × Query := (s.coordinator, s.value, s.query)

theorem inquiry_search (s : Session) (query : Query) (handle : SearchRequest → Handling) :
    (s.search query handle).2.inquiry =
      (s.coordinator.step (.search s.value query handle), s.value, query) := by
  by_cases hb : query.isBlank = true <;> simp only [search, hb] <;> rfl

theorem inquiry_install (s : Session) (document : Option Value)
    (error : Option Json.DecodeError) (handle : SearchRequest → Handling) :
    (s.install document error handle).inquiry =
      ((s.reissue document handle).foldl Coordinator.step s.coordinator, document.getD .null,
        s.query) := by
  by_cases hb : s.query.isBlank = true
  · simp only [install, reissue, hb, ↓reduceIte]
    rfl
  · simp only [install, reissue, hb, Bool.false_eq_true, ↓reduceIte]
    exact inquiry_search _ _ _

/-- Setting a text installs what it decodes to. -/
theorem inquiry_setText (s : Session) (text : String) (handle : SearchRequest → Handling) :
    (s.setText text handle).inquiry =
      ((s.reissue (decode text).toOption handle).foldl Coordinator.step s.coordinator,
        (decode text).toOption.getD .null, s.query) := by
  unfold setText
  cases decode text <;> exact inquiry_install _ _ _ _

theorem inquiry_refresh (s : Session) : s.refresh.2.inquiry = s.inquiry := by
  by_cases h : s.coordinator.published.sequenceId = s.result.sequenceId
  · simp [refresh, h]
  · simp only [refresh, h, ↓reduceIte]
    rfl

theorem step_wait_of_idle {s : Session} (h : s.coordinator.phase = .idle) (limited : Bool) :
    s.step (.wait limited) = s.refresh.2 := by
  simp [step, wait?, Coordinator.wait?, h]

/-- A wait gives the latest request up if it has a time limit, and takes over what is published. A
wait without an end leaves the session as it is. -/
theorem inquiry_wait (s : Session) (limited : Bool) :
    (s.step (.wait limited)).inquiry =
      ((s.requests (.wait limited)).foldl Coordinator.step s.coordinator, s.value, s.query) := by
  cases hp : s.coordinator.phase with
  | idle =>
    -- an idle wait sends `abandon` all the same; there is nothing to give up then
    have ha : s.coordinator.abandon = s.coordinator := by simp [Coordinator.abandon, hp]
    rw [step_wait_of_idle hp, inquiry_refresh]
    cases limited <;> simp [requests, inquiry, Coordinator.step, ha]
  | awaiting =>
    cases limited with
    | false => simp [step, wait?, Coordinator.wait?, hp, requests, inquiry]
    | true =>
      have hstep : s.step (.wait true) =
          { s with coordinator := s.coordinator.abandon }.refresh.2 := by
        simp [step, wait?, Coordinator.wait?, hp]
      rw [hstep, inquiry_refresh]
      rfl

/-- **What an event of a session does.** It reaches the coordinator as its requests. -/
theorem inquiry_step (s : Session) (e : Event) :
    (s.step e).inquiry =
      ((s.requests e).foldl Coordinator.step s.coordinator, s.valueAfter e, s.queryAfter e) := by
  cases e with
  | setText text handle => exact inquiry_setText s text handle
  | setDocument document handle =>
    exact inquiry_install { s with text := document.pretty } (some document) none handle
  | search query handle => exact inquiry_search s query handle
  | refresh => exact inquiry_refresh s
  | wait limited => exact inquiry_wait s limited
  | toggle | expandAll | collapseAll | next | previous | send | drop => rfl

theorem coordinator_step (s : Session) (e : Event) :
    (s.step e).coordinator = (s.requests e).foldl Coordinator.step s.coordinator :=
  congrArg (·.1) (inquiry_step s e)

/-- The coordinator of a session's run has a run behind it. -/
theorem coordinator_run (s : Session) (events : List Event) :
    (run s events).coordinator = (s.traffic events).foldl Coordinator.step s.coordinator := by
  unfold run
  induction events generalizing s with
  | nil => rfl
  | cons e rest ih =>
    rw [List.foldl_cons, ih, traffic, List.foldl_append, coordinator_step]

theorem history_cons (s : Session) (e : Event) (rest : List Event) :
    s.history (e :: rest) = s.coordinator.history (s.requests e) ++ (s.step e).history rest := by
  simp only [history, traffic, Coordinator.history_append, coordinator_step]

theorem history_append (s : Session) (first rest : List Event) :
    s.history (first ++ rest) = s.history first ++ (first.foldl step s).history rest := by
  induction first generalizing s with
  | nil => rfl
  | cons e more ih =>
    rw [List.cons_append, history_cons, ih, history_cons, List.append_assoc, List.foldl_cons]

end JsonExplorer.Session
