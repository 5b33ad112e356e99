import JsonExplorer.Proofs.Search.Visible
import JsonExplorer.Proofs.Session.Traffic

/-!
Sessions whose executor answers at once. Such a coordinator is never left waiting, and what it has
published is always the answer for the document and the query at hand (`Answered`). A session that
takes it over therefore opens just what its matches need, and all of them can be seen
(`matches_are_visible`).
-/

namespace JsonExplorer

open Search (Engine executeWith executeWith_of_blank)

namespace Session

variable (engine : Engine)

/-- An executor that answers a request before it returns, by executing it. -/
def inline (request : SearchRequest) : Handling := ⟨.sent (executeWith engine request), true⟩

/-- An event in a session with that executor. -/
def Event.Inline : Event → Prop
  | .setText _ handle | .setDocument _ handle | .search _ handle => handle = inline engine
  | _ => True

/-- Nothing is awaited, and the answer for the document and the query at hand is published. -/
structure Answered (s : Session) : Prop where
  settled : s.coordinator.settled = s.coordinator.issued
  none_outstanding : s.coordinator.outstanding = []
  published : s.coordinator.published =
    .ofResponse (executeWith engine ⟨s.coordinator.issued, s.value, s.query⟩)

variable {engine}

theorem answered_fresh (rootTypeName : String) (previewLimit : Nat) :
    Answered engine (fresh rootTypeName previewLimit) where
  settled := rfl
  none_outstanding := rfl
  published := by
    have hblank : Query.isBlank {} = true := by decide
    have hanswer : executeWith engine ⟨0, .null, {}⟩ = .empty 0 :=
      executeWith_of_blank engine hblank
    exact congrArg SearchResult.ofResponse hanswer.symm

/-- A search that is answered at once leaves its answer published; a blank one is no exception. -/
theorem search_inline {c : Coordinator} (hc : c.settled = c.issued) (document : Value)
    (query : Query) : (c.search document query (inline engine)).2 =
      { c with issued := c.issued + 1 }.publish (c.issued + 1)
        (executeWith engine ⟨c.issued + 1, document, query⟩) := by
  have hpublish : ∀ r : SearchResponse, r.sequenceId = c.issued + 1 →
      { c with issued := c.issued + 1 }.accept r =
        { c with issued := c.issued + 1 }.publish (c.issued + 1) r := by
    intro r hr
    rw [Coordinator.accept_of_fresh (by simp [hr]) (by simp [hr, hc]), hr]
  by_cases hb : query.isBlank = true
  · rw [executeWith_of_blank engine hb]
    simp [Coordinator.search, hb, hpublish, SearchResponse.empty]
  · simp [Coordinator.search, hb, inline, Coordinator.useReply, hpublish, executeWith]

variable {s t : Session}

theorem Answered.search (h : Answered engine s) {document : Value} {query : Query}
    (ht : t.inquiry =
      (s.coordinator.step (.search document query (inline engine)), document, query)) :
    Answered engine t := by
  obtain ⟨hc, hv, hq⟩ : t.coordinator =
      s.coordinator.step (.search document query (inline engine)) ∧
        t.value = document ∧ t.query = query := by simpa [inquiry] using ht
  rw [Coordinator.step, search_inline h.settled] at hc
  refine ⟨?_, ?_, ?_⟩
  · rw [hc]; rfl
  · rw [hc]; exact h.none_outstanding
  · rw [hc, hv, hq]; rfl

/-- What makes no search may change the document only while the query is blank. -/
theorem Answered.quiet (h : Answered engine s) (hc : t.coordinator = s.coordinator)
    (hv : s.query.isBlank = false → t.value = s.value) (hq : t.query = s.query) :
    Answered engine t := by
  refine ⟨hc ▸ h.settled, hc ▸ h.none_outstanding, ?_⟩
  rw [hc, hq, h.published]
  by_cases hb : s.query.isBlank = true
  · rw [executeWith_of_blank engine hb, executeWith_of_blank engine hb]
  · rw [hv (by simpa using hb)]

/-- A change of the document makes a search, unless the query is blank. -/
theorem Answered.reissue (h : Answered engine s) {document : Option Value}
    (ht : t.inquiry = ((s.reissue document (inline engine)).foldl Coordinator.step s.coordinator,
      document.getD .null, s.query)) : Answered engine t := by
  by_cases hb : s.query.isBlank = true
  · simp only [Session.reissue, hb, ↓reduceIte, List.foldl_nil, inquiry, Prod.mk.injEq] at ht
    exact h.quiet ht.1 (by simp [hb]) ht.2.2
  · simp only [Session.reissue, hb, Bool.false_eq_true, ↓reduceIte] at ht
    exact h.search ht

/-- There is nothing to give up. -/
theorem Answered.abandon_eq (h : Answered engine s) : s.coordinator.abandon = s.coordinator := by
  have hidle : s.coordinator.phase = .idle :=
    (Coordinator.phase_eq_idle_iff _).mpr (Nat.le_of_eq h.settled.symm)
  simp [Coordinator.abandon, hidle]

/-- There is no reply to send a response through. -/
theorem Answered.send_eq (h : Answered engine s) (id : Nat) (r : SearchResponse) :
    s.coordinator.send id r = s.coordinator := by
  simp [Coordinator.send, Coordinator.outstanding?, h.none_outstanding]

/-- **One event.** -/
theorem Answered.step (h : Answered engine s) {e : Event} (he : e.Inline engine) :
    Answered engine (s.step e) := by
  have ht := inquiry_step s e
  cases e with
  | setText text handle =>
    cases he
    exact h.reissue ht
  | setDocument document handle =>
    cases he
    exact h.reissue (show _ = (_, (some document).getD .null, _) from ht)
  | search query handle =>
    cases he
    exact h.search ht
  | wait limited =>
    have hquiet : (s.requests (.wait limited)).foldl Coordinator.step s.coordinator =
        s.coordinator := by
      cases limited <;> simp [requests, Coordinator.step, h.abandon_eq]
    rw [hquiet] at ht
    simp only [inquiry, Prod.mk.injEq] at ht
    exact h.quiet ht.1 (fun _ => ht.2.1) ht.2.2
  | send id r => exact h.quiet (h.send_eq id r) (fun _ => rfl) rfl
  | drop id => exact h.quiet (h.send_eq id _) (fun _ => rfl) rfl
  | refresh | toggle | expandAll | collapseAll | next | previous =>
    simp only [inquiry, Prod.mk.injEq] at ht
    exact h.quiet ht.1 (fun _ => ht.2.1) ht.2.2

theorem Answered.foldl (h : Answered engine s) {events : List Event}
    (he : ∀ e ∈ events, e.Inline engine) : Answered engine (events.foldl Session.step s) := by
  induction events generalizing s with
  | nil => exact h
  | cons e rest ih =>
    obtain ⟨he, hrest⟩ := List.forall_mem_cons.mp he
    exact ih (h.step he) hrest

theorem refresh_snd_of_fst (h : s.refresh.1 = true) :
    s.refresh.2 = s.apply s.coordinator.published := by
  by_cases hsame : s.coordinator.published.sequenceId = s.result.sequenceId
  · simp [refresh, hsame] at h
  · simp [refresh, hsame]

/-- A result that is taken over has all it opens open from then on. -/
theorem mem_autoExpanded_apply {r : SearchResult} {p : String} (hp : p ∈ r.expand) :
    p ∈ (s.apply r).autoExpanded := by
  have hne : r.expand.isEmpty = false := by simpa using List.ne_nil_of_mem hp
  simpa [apply, hne] using hp

/-- A session that takes over the answer for what it shows has a row for each match. -/
theorem Answered.exists_row (h : Answered engine s) (refreshed : s.refresh.1 = true) {p : String}
    (hp : p ∈ s.refresh.2.matchPaths) : ∃ r ∈ s.refresh.2.visibleRows, r.path = p := by
  rw [refresh_snd_of_fst refreshed] at hp ⊢
  have hopen : ∀ q ∈ (executeWith engine ⟨s.coordinator.issued, s.value, s.query⟩).expand,
      q ∈ s.expanded ++ (s.apply s.coordinator.published).autoExpanded := by
    intro q hq
    refine List.mem_append_right _ (mem_autoExpanded_apply ?_)
    rw [h.published]
    exact mem_distinct.mpr hq
  rw [matchPaths, apply, h.published] at hp
  exact Search.exists_row_of_mem_executeWith engine hopen hp

/-- **Every match can be seen.** The rows of a document, with the paths open that answering a
request reveals, hold the path of each match. And a session whose executor answers at once, after
any events: whenever it takes over a new result, each of its matches is the path of a visible
row. -/
theorem matches_are_visible (engine : Engine) :
    (∀ (request : SearchRequest) (limit : Option Nat), ∀ p ∈ (executeWith engine request).paths,
      ∃ r ∈ Outline.rows request.document (executeWith engine request).expand limit,
        r.path = p) ∧
    ∀ (rootTypeName : String) (previewLimit : Nat) (events : List Event),
      (∀ e ∈ events, e.Inline engine) →
      let s := run (fresh rootTypeName previewLimit) events
      s.refresh.1 = true →
        ∀ p ∈ s.refresh.2.matchPaths, ∃ r ∈ s.refresh.2.visibleRows, r.path = p := by
  refine ⟨fun request limit p hp =>
    Search.exists_row_of_mem_executeWith engine (fun _ hq => hq) hp, ?_⟩
  intro rootTypeName previewLimit events inline s refreshed
  have h : Answered engine s := (answered_fresh rootTypeName previewLimit).foldl inline
  exact fun p hp => h.exists_row refreshed hp

/-- Two nodes with one path; a search finds the one inside a closed container. -/
def twins : Value := .object [("a", .object [("b", .null)]), ("a.b", .boolean true)]

def aliased : List Event :=
  [.setDocument twins (inline Pattern.compile?),
    .search { term := "null" } (inline Pattern.compile?)]

set_option maxRecDepth 20000 in
theorem matches_are_visible_aliased :
    (∀ e ∈ aliased, e.Inline Pattern.compile?) ∧
      (run (fresh "Root" 120) aliased).refresh.1 = true ∧
      "Root.a.b" ∈ (run (fresh "Root" 120) aliased).refresh.2.matchPaths ∧
      ∃ r ∈ (run (fresh "Root" 120) aliased).refresh.2.visibleRows, r.path = "Root.a.b" := by
  have inline : ∀ e ∈ aliased, e.Inline Pattern.compile? := by simp [aliased, Event.Inline]
  have refreshed : (run (fresh "Root" 120) aliased).refresh.1 = true := by decide +kernel
  have hmatch : "Root.a.b" ∈ (run (fresh "Root" 120) aliased).refresh.2.matchPaths := by
    rw [refresh_snd_of_fst refreshed]
    have hpaths : ((run (fresh "Root" 120) aliased).apply
        (run (fresh "Root" 120) aliased).coordinator.published).matchPaths =
          Search.matchesWith Pattern.compile? { term := "null" } twins := rfl
    have hblank : Query.isBlank { term := "null" } = false := by decide +kernel
    have hb : ([.key "a", .key "b"], .null) ∈ twins.nodes := by
      simp [twins, Value.nodes, Value.nodesAt, Value.fieldNodes]
    rw [hpaths]
    simp only [Search.matchesWith, Query.testWith?, hblank, Bool.false_eq_true, ↓reduceIte]
    exact Search.mem_matchPaths_iff.mpr ⟨_, hb, by decide +kernel, rfl⟩
  exact ⟨inline, refreshed, hmatch, (matches_are_visible Pattern.compile?).2 "Root" 120 aliased
    inline refreshed _ hmatch⟩

end Session

end JsonExplorer
