import JsonExplorer.Proofs.Coordinator.Latest
import JsonExplorer.Proofs.Session.Traffic

/-!
An idle session shows the answer to what it asks. Every change of the document or the query makes a
request of its own, so that the latest request is always the one for the document and the query at
hand (`UpToDate`); once nothing is awaited, the published result is what executing that request
gives, unless the request was lost (`published_eq_execute`).
-/

namespace JsonExplorer

namespace Coordinator

/-- Every response sent is what executing its request gives. -/
def Executed (past : List Note) : Prop :=
  ∀ q r, Note.sent q r ∈ past → r = Search.execute q

theorem Executed.ownNumbers {past : List Note} (h : Executed past) : OwnNumbers past := by
  intro q r hs
  rw [h q r hs]
  rfl

end Coordinator

namespace Session

open Coordinator (Note Consistent NeverDispatched OwnNumbers Executed Lost)

/-- The latest request is the one for the document and the query at hand; with a blank query there
is none that an executor has seen. -/
structure UpToDate (past : List Note) (s : Session) : Prop where
  consistent : Consistent past s.coordinator
  none_of_blank : s.query.isBlank = true → NeverDispatched past s.coordinator.issued
  latest : s.query.isBlank = false →
    Note.dispatched (⟨s.coordinator.issued, s.value, s.query⟩ : SearchRequest) ∈ past

theorem upToDate_fresh (rootTypeName : String) (previewLimit : Nat) :
    UpToDate [] (fresh rootTypeName previewLimit) where
  consistent := Coordinator.consistent_init
  none_of_blank _ := fun q hq => by simp at hq
  latest hb := by
    have hblank : Query.isBlank {} = true := by decide
    exact absurd (hblank.symm.trans hb) (by decide)

variable {past : List Note} {s t : Session}

/-- Only a search dispatches anything. -/
theorem neverDispatched_notes {c : Coordinator} {e : Coordinator.Event} (he : e.isSearch = false)
    (id : Nat) : NeverDispatched (c.notes e) id := by
  intro q hq
  cases e with
  | search => simp [Coordinator.Event.isSearch] at he
  | send => simp [Coordinator.notes] at hq
  | drop => simp [Coordinator.notes] at hq
  | abandon => cases hp : c.phase <;> simp [Coordinator.notes, hp] at hq

/-- A search makes the latest request the one for the document and the query it is about. -/
theorem UpToDate.search (h : UpToDate past s) {document : Value} {query : Query}
    {handle : SearchRequest → Handling}
    (ho : OwnNumbers (s.coordinator.notes (.search document query handle)))
    (ht : t.inquiry =
      (s.coordinator.step (.search document query handle), document, query)) :
    UpToDate (past ++ s.coordinator.notes (.search document query handle)) t := by
  obtain ⟨hc, hv, hq⟩ : t.coordinator = s.coordinator.step (.search document query handle) ∧
      t.value = document ∧ t.query = query := by simpa [inquiry] using ht
  have hi : t.coordinator.issued = s.coordinator.issued + 1 := by
    rw [hc]
    exact Coordinator.issued_search _ _ _ _
  refine ⟨?_, fun hb q hd => ?_, fun hb => ?_⟩
  · rw [hc]
    exact h.consistent.step _ ho
  · rw [hq] at hb
    have hd : Note.dispatched q ∈ past := by simpa [Coordinator.notes, hb] using hd
    have := h.consistent.dispatched_le q hd
    omega
  · rw [hq] at hb
    rw [hi, hv, hq]
    simp [Coordinator.notes, hb, Coordinator.nextRequest]

/-- Anything else that reaches the coordinator leaves the latest request as it is. -/
theorem UpToDate.other (h : UpToDate past s) {e : Coordinator.Event} (he : e.isSearch = false)
    (ho : OwnNumbers (s.coordinator.notes e))
    (ht : t.inquiry = (s.coordinator.step e, s.value, s.query)) :
    UpToDate (past ++ s.coordinator.notes e) t := by
  obtain ⟨hc, hv, hq⟩ : t.coordinator = s.coordinator.step e ∧ t.value = s.value ∧
      t.query = s.query := by simpa [inquiry] using ht
  have hi : t.coordinator.issued = s.coordinator.issued := by
    rw [hc, Coordinator.issued_step, he]
    rfl
  refine ⟨?_, fun hb q hd => ?_, fun hb => ?_⟩
  · rw [hc]
    exact h.consistent.step _ ho
  · rw [hi]
    rcases List.mem_append.mp hd with hd | hd
    · exact h.none_of_blank (hq ▸ hb) q hd
    · exact neverDispatched_notes he _ q hd
  · rw [hi, hv, hq]
    exact List.mem_append_left _ (h.latest (hq ▸ hb))

/-- What does not reach the coordinator may change the document only while the query is blank. -/
theorem UpToDate.quiet (h : UpToDate past s) (hc : t.coordinator = s.coordinator)
    (hv : s.query.isBlank = false → t.value = s.value) (hq : t.query = s.query) :
    UpToDate past t where
  consistent := hc ▸ h.consistent
  none_of_blank hb := by
    rw [hc]
    exact h.none_of_blank (hq ▸ hb)
  latest hb := by
    rw [hq] at hb
    rw [hc, hv hb, hq]
    exact h.latest hb

/-- **One event.** Whatever changes the document or the query makes a new latest request. -/
theorem UpToDate.step (h : UpToDate past s) (e : Event)
    (ho : OwnNumbers (s.coordinator.history (s.requests e))) :
    UpToDate (past ++ s.coordinator.history (s.requests e)) (s.step e) := by
  have hsingle : ∀ e', s.coordinator.history [e'] = s.coordinator.notes e' := fun e' => by
    simp [Coordinator.history]
  have ht := inquiry_step s e
  -- `setText` and `setDocument` search again unless the query is blank, and then nothing that is
  -- published depends on the document
  have hreissue : ∀ document handle, s.requests e = s.reissue document handle →
      s.valueAfter e = document.getD .null → s.queryAfter e = s.query →
      UpToDate (past ++ s.coordinator.history (s.requests e)) (s.step e) := by
    intro document handle hr hv hq
    rw [hr, hv, hq] at ht
    rw [hr] at ho ⊢
    by_cases hb : s.query.isBlank = true
    · simp only [reissue, hb, ↓reduceIte, List.foldl_nil] at ht ⊢
      simp only [inquiry, Prod.mk.injEq] at ht
      simpa [Coordinator.history] using h.quiet ht.1 (by simp [hb]) ht.2.2
    · simp only [reissue, hb, Bool.false_eq_true, ↓reduceIte, hsingle] at ho ht ⊢
      exact h.search ho ht
  cases e with
  | setText text handle => exact hreissue _ _ rfl rfl rfl
  | setDocument document handle => exact hreissue _ _ rfl rfl rfl
  | search query handle =>
    simp only [requests, hsingle] at ho ht ⊢
    exact h.search ho ht
  | wait limited =>
    cases limited with
    | true =>
      simp only [requests, ↓reduceIte, hsingle] at ho ht ⊢
      exact h.other rfl ho ht
    | false =>
      simp only [inquiry, Prod.mk.injEq] at ht
      simpa [requests, Coordinator.history] using h.quiet ht.1 (fun _ => ht.2.1) ht.2.2
  | send id r =>
    simp only [requests, hsingle] at ho ht ⊢
    exact h.other rfl ho ht
  | drop id =>
    simp only [requests, hsingle] at ho ht ⊢
    exact h.other rfl ho ht
  | refresh | toggle | expandAll | collapseAll | next | previous =>
    simp only [inquiry, Prod.mk.injEq] at ht
    simpa [requests, Coordinator.history] using h.quiet ht.1 (fun _ => ht.2.1) ht.2.2

theorem UpToDate.foldl (h : UpToDate past s) (events : List Event)
    (ho : OwnNumbers (s.history events)) :
    UpToDate (past ++ s.history events) (events.foldl Session.step s) := by
  induction events generalizing past s with
  | nil => simpa [history, traffic, Coordinator.history] using h
  | cons e rest ih =>
    rw [history_cons] at ho ⊢
    rw [← List.append_assoc]
    exact ih (h.step e ho.left) ho.right

/-- An answer that is awaited is one to a query that is not blank. -/
theorem UpToDate.idle_of_blank (h : UpToDate past s) (hb : s.query.isBlank = true) :
    s.coordinator.phase = .idle := by
  cases hp : s.coordinator.phase with
  | idle => rfl
  | awaiting =>
    obtain ⟨q, _, hid, hd, _⟩ := h.consistent.awaiting hp
    exact absurd hid (h.none_of_blank hb q hd)

theorem UpToDate.published_of_blank (h : UpToDate past s) (hb : s.query.isBlank = true) :
    s.coordinator.published = .ofResponse (.empty s.coordinator.issued) := by
  have hof := h.consistent.published_of
  rw [h.consistent.settled_eq (h.idle_of_blank hb)] at hof
  rcases hof with ⟨q, r, hs, hq, _⟩ | ⟨hr, _⟩
  · -- nothing was sent for a request that no executor has seen
    exact absurd hq (h.none_of_blank hb q (h.consistent.sent_dispatched q r hs))
  · exact hr

/-- Executing a request with a blank query gives the empty response. -/
theorem execute_of_blank {q : SearchRequest} (hb : q.query.isBlank = true) :
    Search.execute q = .empty q.sequenceId := by
  simp [Search.execute, Search.matches?, Search.test?, Query.testWith?, hb, SearchResponse.empty]

/-- An idle session shows the answer to the request for its document and its query, or the empty
result if that request was lost. -/
theorem UpToDate.published_eq (h : UpToDate past s) (hx : Executed past)
    (idle : s.coordinator.phase = .idle) :
    s.coordinator.published =
        .ofResponse (Search.execute ⟨s.coordinator.issued, s.value, s.query⟩) ∨
      (Lost past s.coordinator.issued ∧
        s.coordinator.published = .ofResponse (.empty s.coordinator.issued)) := by
  by_cases hb : s.query.isBlank = true
  · have hexec : Search.execute ⟨s.coordinator.issued, s.value, s.query⟩ =
        .empty s.coordinator.issued := execute_of_blank hb
    rw [hexec]
    exact Or.inl (h.published_of_blank hb)
  · have hd := h.latest (by simpa using hb)
    have hof := h.consistent.published_of
    rw [h.consistent.settled_eq idle] at hof
    rcases hof with ⟨q, r, hs, hq, hr⟩ | ⟨hr, hn | hl⟩
    · have hsame := h.consistent.dispatched_unique q _
        (h.consistent.sent_dispatched q r hs) hd hq
      rw [← hsame, ← hx q r hs]
      exact Or.inl hr
    · -- the latest request was dispatched, so it cannot be empty for want of that
      exact absurd rfl (hn _ hd)
    · exact Or.inr ⟨hl, hr⟩

/-- **An idle session never shows the result of another document or query.** After any events, on a
coordinator whose executor answers requests by executing them, or keeps, drops or fails them: when
nothing is awaited, the published result is the answer to a request for the session's own document
and query, under the latest number; or that request was dropped, failed or given up, and the result
is the empty one of that number. -/
theorem published_eq_execute (rootTypeName : String) (previewLimit : Nat) (events : List Event)
    (executed : Executed ((fresh rootTypeName previewLimit).history events)) :
    let s := run (fresh rootTypeName previewLimit) events
    s.coordinator.phase = .idle →
      s.coordinator.published =
          .ofResponse (Search.execute ⟨s.coordinator.issued, s.value, s.query⟩) ∨
        (Lost ((fresh rootTypeName previewLimit).history events) s.coordinator.issued ∧
          s.coordinator.published = .ofResponse (.empty s.coordinator.issued)) := by
  intro s idle
  have h := (upToDate_fresh rootTypeName previewLimit).foldl events executed.ownNumbers
  rw [List.nil_append] at h
  exact UpToDate.published_eq (s := s) h executed idle

/-- A document is replaced while its search is under way; the search of the new one is answered
first, the late answer for the old one after it. -/
def replaced : List Event :=
  [.setDocument (.string "x") fun _ => ⟨.kept, true⟩,
    .search { term := "x" } fun _ => ⟨.kept, true⟩,
    .setDocument (.string "y") fun _ => ⟨.kept, true⟩,
    .send 2 (Search.execute ⟨2, .string "y", { term := "x" }⟩),
    .refresh,
    .send 1 (Search.execute ⟨1, .string "x", { term := "x" }⟩)]

set_option maxRecDepth 20000 in
theorem published_eq_execute_replaced :
    Executed ((fresh "Root" 120).history replaced) ∧
      (run (fresh "Root" 120) replaced).coordinator.phase = .idle ∧
      (run (fresh "Root" 120) replaced).coordinator.published =
        .ofResponse (Search.execute ⟨2, .string "y", { term := "x" }⟩) := by
  have hnotes : (fresh "Root" 120).history replaced =
      [.dispatched ⟨1, .string "x", { term := "x" }⟩,
        .dispatched ⟨2, .string "y", { term := "x" }⟩,
        .sent ⟨2, .string "y", { term := "x" }⟩
          (Search.execute ⟨2, .string "y", { term := "x" }⟩),
        .sent ⟨1, .string "x", { term := "x" }⟩
          (Search.execute ⟨1, .string "x", { term := "x" }⟩)] := rfl
  have executed : Executed ((fresh "Root" 120).history replaced) := by
    rw [hnotes]
    intro q r hs
    simp only [List.mem_cons, reduceCtorEq, Note.sent.injEq, List.not_mem_nil, or_false,
      false_or] at hs
    rcases hs with ⟨rfl, rfl⟩ | ⟨rfl, rfl⟩ <;> rfl
  have idle : (run (fresh "Root" 120) replaced).coordinator.phase = .idle := by decide +kernel
  refine ⟨executed, idle, ?_⟩
  rcases published_eq_execute "Root" 120 replaced executed idle with h | ⟨hl, _⟩
  · exact h
  · rw [hnotes] at hl
    simp [Lost] at hl

end Session

end JsonExplorer
