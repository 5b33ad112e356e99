import JsonExplorer.Proofs.Session.Current
import JsonExplorer.Proofs.Session.Inline
import JsonExplorer.Worker

/-!
Sessions whose executor keeps requests and answers them later, in any order, by executing them. What
such a session shows is what it would show if every request was answered at once, as long as each
wait lasts until the latest request is answered (`same_wherever_answered`). A session sees of its
coordinator only what is published when a wait ends, and that is the answer to the latest request
in both cases (`InStep.published_eq`); all else happens alike on any coordinator (`step_on`).
-/

namespace JsonExplorer

open Search (execute_eq)

namespace Session

open Coordinator (Note Executed Lost OwnNumbers)

variable {past : List Note} {s t : Session} {c : Coordinator}

/-! ## Executors that take their time -/

/-- An executor that keeps the request for later, or executes it before it returns. -/
def Defers (handle : SearchRequest → Handling) : Prop :=
  ∀ q, handle q = ⟨.kept, true⟩ ∨ handle q = ⟨.sent (Search.execute q), true⟩

/-- An event in a session with such executors. Kept requests are answered by executing them, and a
wait ends when nothing is awaited. -/
def Event.Deferred (s : Session) : Event → Prop
  | .setText _ handle | .setDocument _ handle | .search _ handle => Defers handle
  | .send id r => ∀ q, s.coordinator.outstanding? id = some q → r = Search.execute q
  | .wait _ => s.coordinator.phase = .idle
  | .refresh | .drop _ => False
  | .toggle _ | .expandAll | .collapseAll | .next | .previous => True

def Deferred (s : Session) : List Event → Prop
  | [] => True
  | e :: rest => e.Deferred s ∧ (s.step e).Deferred rest

/-- What the user does, in a session whose executor answers at once. There are no kept replies then
of which anything could become. -/
def Event.atOnce? : Event → Option Event
  | .setText text _ => some (.setText text (inline Pattern.compile?))
  | .setDocument document _ => some (.setDocument document (inline Pattern.compile?))
  | .search query _ => some (.search query (inline Pattern.compile?))
  | .send _ _ | .drop _ => none
  | e => some e

/-! ## Notes -/

/-- A request that is dispatched, or answered by executing it. -/
def Faithful : Note → Prop
  | .dispatched _ => True
  | .sent q r => r = Search.execute q
  | .dropped _ | .failed _ | .abandoned _ => False

theorem executed_of_faithful (h : ∀ n ∈ past, Faithful n) : Executed past :=
  fun q r hs => h (.sent q r) hs

theorem not_lost_of_faithful (h : ∀ n ∈ past, Faithful n) (id : Nat) : ¬ Lost past id := by
  rintro (⟨q, -, hn | hn⟩ | hn) <;> exact h _ hn

theorem faithful_search (c : Coordinator) (document : Value) (query : Query)
    {handle : SearchRequest → Handling} (hh : Defers handle) :
    ∀ n ∈ c.history [.search document query handle], Faithful n := by
  intro n hn
  by_cases hb : query.isBlank = true
  · simp [Coordinator.history, Coordinator.notes, hb] at hn
  · rcases hh (c.nextRequest document query) with hkept | hsent
    · obtain rfl : n = .dispatched (c.nextRequest document query) := by
        simpa [Coordinator.history, Coordinator.notes, hb, hkept, Coordinator.useNotes,
          Coordinator.failureNotes] using hn
      trivial
    · have hn : n = .dispatched (c.nextRequest document query) ∨
          n = .sent (c.nextRequest document query)
            (Search.execute (c.nextRequest document query)) := by
        simpa [Coordinator.history, Coordinator.notes, hb, hsent, Coordinator.useNotes,
          Coordinator.failureNotes] using hn
      rcases hn with rfl | rfl
      · trivial
      · rfl

theorem faithful_reissue (s : Session) (document : Option Value)
    {handle : SearchRequest → Handling} (hh : Defers handle) :
    ∀ n ∈ s.coordinator.history (s.reissue document handle), Faithful n := by
  by_cases hb : s.query.isBlank = true
  · simp [reissue, hb, Coordinator.history]
  · simp only [reissue, hb, Bool.false_eq_true, ↓reduceIte]
    exact faithful_search _ _ _ hh

/-- No request is lost, and the answers sent are those of executing the requests. -/
theorem faithful_requests {e : Event} (he : e.Deferred s) :
    ∀ n ∈ s.coordinator.history (s.requests e), Faithful n := by
  cases e with
  | setText text handle => exact faithful_reissue s _ he
  | setDocument document handle => exact faithful_reissue s _ he
  | search query handle => exact faithful_search _ _ _ he
  | wait limited =>
    have hidle : s.coordinator.phase = .idle := he
    cases limited <;> simp [requests, Coordinator.history, Coordinator.notes, hidle]
  | send id r =>
    intro n hn
    obtain ⟨q, hq, rfl⟩ : ∃ q, s.coordinator.outstanding? id = some q ∧ .sent q r = n := by
      simpa [requests, Coordinator.history, Coordinator.notes] using hn
    exact he q hq
  | refresh | drop id => exact he.elim
  | toggle | expandAll | collapseAll | next | previous => simp [requests, Coordinator.history]

/-! ## One session on two coordinators -/

def on (s : Session) (c : Coordinator) : Session := { s with coordinator := c }

theorem search_on (s : Session) (c : Coordinator) (query : Query)
    (handle handle' : SearchRequest → Handling) : ∃ c',
    ((s.on c).search query handle').2 = (s.search query handle).2.on c' := by
  refine ⟨(c.search s.value query handle').2, ?_⟩
  by_cases hb : query.isBlank = true <;> simp only [search, hb] <;> rfl

theorem install_on (s : Session) (c : Coordinator) (document : Option Value)
    (error : Option Json.DecodeError) (handle handle' : SearchRequest → Handling) : ∃ c',
    (s.on c).install document error handle' = (s.install document error handle).on c' := by
  have hquery : (s.on c).query = s.query := rfl
  by_cases hb : s.query.isBlank = true
  · simp only [install, hquery, hb, ↓reduceIte]
    exact ⟨c, rfl⟩
  · simp only [install, hquery, hb, Bool.false_eq_true, ↓reduceIte]
    exact search_on { s with document := document, error := error } c s.query handle handle'

theorem setText_on (s : Session) (c : Coordinator) (text : String)
    (handle handle' : SearchRequest → Handling) : ∃ c',
    (s.on c).setText text handle' = (s.setText text handle).on c' := by
  unfold setText
  cases decode text with
  | ok v => exact install_on { s with text := text } c _ _ handle handle'
  | error e => exact install_on { s with text := text } c _ _ handle handle'

/-- A refresh depends on the published result only. -/
theorem refresh_on (hp : c.published = s.coordinator.published) :
    (s.on c).refresh.2 = s.refresh.2.on c := by
  by_cases h : s.coordinator.published.sequenceId = s.result.sequenceId
  · simp [refresh, on, hp, h]
  · simp [refresh, on, hp, h, apply]

/-- What the user does has the same effect on any coordinator, if at a wait the same is published
and nothing awaited. -/
theorem step_on {e e' : Event} (he : e.Deferred s) (hat : e.atOnce? = some e')
    (hw : s.coordinator.phase = .idle →
      c.phase = .idle ∧ c.published = s.coordinator.published) :
    ∃ c', (s.on c).step e' = (s.step e).on c' := by
  cases e with
  | setText text handle =>
    obtain rfl := Option.some.inj hat
    exact setText_on s c text handle _
  | setDocument document handle =>
    obtain rfl := Option.some.inj hat
    exact install_on { s with text := document.pretty } c _ _ handle _
  | search query handle =>
    obtain rfl := Option.some.inj hat
    exact search_on s c query handle _
  | wait limited =>
    obtain rfl := Option.some.inj hat
    have hidle : s.coordinator.phase = .idle := he
    obtain ⟨hc, hp⟩ := hw hidle
    rw [step_wait_of_idle hidle, step_wait_of_idle (s := s.on c) hc]
    exact ⟨c, refresh_on hp⟩
  | refresh => exact he.elim
  | send | drop => simp [Event.atOnce?] at hat
  | toggle | expandAll | collapseAll | next | previous =>
    obtain rfl := Option.some.inj hat
    exact ⟨c, rfl⟩

/-- What the user does makes as many searches on any coordinator. -/
theorem countP_requests_on {e e' : Event} (hat : e.atOnce? = some e') :
    ((s.on c).requests e').countP Coordinator.Event.isSearch =
      (s.requests e).countP Coordinator.Event.isSearch := by
  have hreissue : ∀ document handle handle',
      ((s.on c).reissue document handle').countP Coordinator.Event.isSearch =
        (s.reissue document handle).countP Coordinator.Event.isSearch := by
    intro document handle handle'
    have hquery : (s.on c).query = s.query := rfl
    by_cases hb : s.query.isBlank = true <;>
      simp [reissue, hquery, hb, Coordinator.Event.isSearch]
  cases e with
  | setText text handle =>
    obtain rfl := Option.some.inj hat
    exact hreissue _ handle _
  | setDocument document handle =>
    obtain rfl := Option.some.inj hat
    exact hreissue _ handle _
  | search | refresh | wait | toggle | expandAll | collapseAll | next | previous =>
    obtain rfl := Option.some.inj hat
    rfl
  | send | drop => simp [Event.atOnce?] at hat

/-! ## Two runs side by side -/

/-- A session `s` whose executor takes its time, and one whose executor answers at once. -/
structure InStep (past : List Note) (s t : Session) : Prop where
  upToDate : UpToDate past s
  faithful : ∀ n ∈ past, Faithful n
  answered : Answered Pattern.compile? t
  alike : t = s.on t.coordinator
  issued : t.coordinator.issued = s.coordinator.issued

theorem inStep_fresh (rootTypeName : String) (previewLimit : Nat) :
    InStep [] (fresh rootTypeName previewLimit) (fresh rootTypeName previewLimit) where
  upToDate := upToDate_fresh _ _
  faithful := by simp
  answered := answered_fresh _ _
  alike := rfl
  issued := rfl

/-- With nothing awaited both have the answer for the same document and query published, under the
same number. -/
theorem InStep.published_eq (h : InStep past s t) (idle : s.coordinator.phase = .idle) :
    t.coordinator.published = s.coordinator.published := by
  have hvalue : t.value = s.value := by rw [h.alike]; rfl
  have hquery : t.query = s.query := by rw [h.alike]; rfl
  rw [h.answered.published, h.issued, hvalue, hquery, ← execute_eq]
  rcases h.upToDate.published_eq (executed_of_faithful h.faithful) idle with hp | ⟨hlost, -⟩
  · exact hp.symm
  · exact absurd hlost (not_lost_of_faithful h.faithful _)

/-- What happens to the one session by itself. -/
theorem InStep.faithful_append (h : InStep past s t) {e : Event} (he : e.Deferred s) :
    ∀ n ∈ past ++ s.coordinator.history (s.requests e), Faithful n :=
  List.forall_mem_append.mpr ⟨h.faithful, faithful_requests he⟩

theorem InStep.upToDate_step (h : InStep past s t) {e : Event} (he : e.Deferred s) :
    UpToDate (past ++ s.coordinator.history (s.requests e)) (s.step e) :=
  h.upToDate.step e (executed_of_faithful (faithful_requests he)).ownNumbers

/-- **One event** of the user, in both. -/
theorem InStep.step (h : InStep past s t) {e e' : Event} (he : e.Deferred s)
    (hat : e.atOnce? = some e') :
    InStep (past ++ s.coordinator.history (s.requests e)) (s.step e) (t.step e') where
  upToDate := h.upToDate_step he
  faithful := h.faithful_append he
  answered := by
    refine h.answered.step ?_
    cases e <;> simp_all [Event.atOnce?, Event.Inline] <;> subst hat <;> trivial
  alike := by
    have hidle : t.coordinator.phase = .idle :=
      (Coordinator.phase_eq_idle_iff _).mpr (Nat.le_of_eq h.answered.settled.symm)
    obtain ⟨c', hc⟩ := step_on (c := t.coordinator) he hat
      fun idle => ⟨hidle, h.published_eq idle⟩
    rw [← h.alike] at hc
    rw [hc]
    rfl
  issued := by
    have hcount := countP_requests_on (s := s) (c := t.coordinator) hat
    rw [← h.alike] at hcount
    rw [coordinator_step, coordinator_step, Coordinator.issued_foldl, Coordinator.issued_foldl,
      h.issued, hcount]

/-- **One event** that only the one of them has: a kept request is answered. -/
theorem InStep.step_left (h : InStep past s t) {e : Event} (he : e.Deferred s)
    (hat : e.atOnce? = none) :
    InStep (past ++ s.coordinator.history (s.requests e)) (s.step e) t where
  upToDate := h.upToDate_step he
  faithful := h.faithful_append he
  answered := h.answered
  alike := by
    cases e with
    | send id r => exact h.alike
    | drop => exact he.elim
    | _ => simp [Event.atOnce?] at hat
  issued := by
    cases e with
    | send id r => exact h.issued.trans (Coordinator.issued_send _ id r).symm
    | drop => exact he.elim
    | _ => simp [Event.atOnce?] at hat

theorem InStep.foldl (h : InStep past s t) {events : List Event} (he : s.Deferred events) :
    InStep (past ++ s.history events) (events.foldl Session.step s)
      ((events.filterMap Event.atOnce?).foldl Session.step t) := by
  induction events generalizing past s t with
  | nil => simpa [history, traffic, Coordinator.history] using h
  | cons e rest ih =>
    rw [history_cons, ← List.append_assoc]
    cases hat : e.atOnce? with
    | some e' =>
      rw [List.filterMap_cons_some hat]
      exact ih (h.step he.1 hat) he.2
    | none =>
      rw [List.filterMap_cons_none hat]
      exact ih (h.step_left he.1 hat) he.2

/-- **Where searches run makes no difference.** Take what a user does to a session, with executors
that keep requests or answer them at once, kept requests answered by executing them at any time and
in any order, and each wait lasting until the latest request is answered. At every point the session
has the document, the fault, the query, the matches, their count, the current match, the open paths
and the visible rows that it has if the user does the same with an executor that answers at once. -/
theorem same_wherever_answered (rootTypeName : String) (previewLimit : Nat) (events : List Event)
    (deferred : (fresh rootTypeName previewLimit).Deferred events) :
    let s := run (fresh rootTypeName previewLimit) events
    let t := run (fresh rootTypeName previewLimit) (events.filterMap Event.atOnce?)
    s.document = t.document ∧ s.error = t.error ∧ s.query = t.query ∧
      s.matchPaths = t.matchPaths ∧ s.matchCount = t.matchCount ∧
      s.currentMatch = t.currentMatch ∧ (∀ path, s.isExpanded path = t.isExpanded path) ∧
      s.visibleRows = t.visibleRows := by
  intro s t
  have h : InStep _ s t := (inStep_fresh rootTypeName previewLimit).foldl deferred
  have halike : t = s.on t.coordinator := h.alike
  rw [halike]
  exact ⟨rfl, rfl, rfl, rfl, rfl, rfl, fun _ => rfl, rfl⟩

/-- A document is replaced while a worker has the search of it in its queue; the search of the new
one is answered first, the other one only after the wait. -/
def postponed : List Event :=
  [.setDocument (.array [.string "x"]) (Worker.handling {}),
    .search { term := "x" } (Worker.handling {}),
    .setDocument (.array [.null, .string "x"]) (Worker.handling {}),
    .send 2 (Search.execute ⟨2, .array [.null, .string "x"], { term := "x" }⟩),
    .wait false,
    .next,
    .send 1 (Search.execute ⟨1, .array [.string "x"], { term := "x" }⟩),
    .toggle "Root"]

set_option maxRecDepth 20000 in
theorem same_wherever_answered_postponed :
    (fresh "Root" 120).Deferred postponed ∧
      (run (fresh "Root" 120) postponed).currentMatch =
        (run (fresh "Root" 120) (postponed.filterMap Event.atOnce?)).currentMatch ∧
      (run (fresh "Root" 120) postponed).visibleRows =
        (run (fresh "Root" 120) (postponed.filterMap Event.atOnce?)).visibleRows := by
  have hqueue : Defers (Worker.handling {}) := fun _ => Or.inl rfl
  have deferred : (fresh "Root" 120).Deferred postponed := by
    refine ⟨hqueue, hqueue, hqueue, ?_, ?_, trivial, ?_, trivial, trivial⟩
    · rintro q ⟨⟩
      rfl
    · show Coordinator.phase _ = .idle
      decide +kernel
    · rintro q ⟨⟩
      rfl
  obtain ⟨_, _, _, _, _, hmatch, _, hrows⟩ := same_wherever_answered "Root" 120 postponed deferred
  exact ⟨deferred, hmatch, hrows⟩

end Session

end JsonExplorer
