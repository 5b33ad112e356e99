import JsonExplorer.Proofs.Session.Taken
import JsonExplorer.Proofs.Session.Current

/-!
Sessions with a blank query. A blank search is answered as its number is given out, so that until
the next one that is not blank nothing is awaited and the published result is empty
(`UpToDate.published_of_blank`), whatever becomes of earlier requests. The session itself opens
nothing of its own accord in all that time, and has no matches once it has looked at what is
published (`blank_search_stays_cleared`).
-/

namespace JsonExplorer.Session

open Coordinator (Note OwnNumbers)

variable {past : List Note} {s : Session}

/-! ## Events that leave the query blank -/

/-- Anything but a search for something. -/
def Event.LeavesBlank : Event → Prop
  | .search query _ => query.isBlank = true
  | _ => True

/-- Looking at what is published. -/
def Event.Looks : Event → Prop
  | .refresh | .wait _ => True
  | _ => False

theorem query_step (s : Session) (e : Event) : (s.step e).query = s.queryAfter e :=
  congrArg (·.2.2) (inquiry_step s e)

theorem Event.LeavesBlank.step {e : Event} (he : e.LeavesBlank) (hb : s.query.isBlank = true) :
    (s.step e).query.isBlank = true := by
  rw [query_step]
  cases e with
  | search => exact he
  | _ => exact hb

theorem Event.LeavesBlank.foldl {events : List Event} (he : ∀ e ∈ events, e.LeavesBlank)
    (hb : s.query.isBlank = true) : (events.foldl Session.step s).query.isBlank = true := by
  induction events generalizing s with
  | nil => exact hb
  | cons e rest ih =>
    obtain ⟨he, hrest⟩ := List.forall_mem_cons.mp he
    exact ih hrest (he.step hb)

/-! ## What the session opens by itself -/

/-- Nothing is open of its own accord while the query is blank. -/
structure Cleared (past : List Note) (s : Session) : Prop extends UpToDate past s where
  taken : ∃ c, Taken c s
  closed : s.query.isBlank = true → s.autoExpanded = []

theorem cleared_fresh (rootTypeName : String) (previewLimit : Nat) :
    Cleared [] (fresh rootTypeName previewLimit) where
  toUpToDate := upToDate_fresh _ _
  taken := ⟨_, taken_fresh _ _⟩
  closed _ := rfl

/-- An empty result that is taken over leaves closed what is closed. -/
theorem autoExpanded_of_blank {t : Session} (ht : UpToDate past t) (hb : t.query.isBlank = true)
    (hs : s.autoExpanded = [])
    (hshown : t.shown = s.shown ∨ t.shown = (s.apply t.coordinator.published).shown) :
    t.autoExpanded = [] := by
  rcases hshown with hshown | hshown
  · exact (congrArg (·.1) hshown).trans hs
  · rw [ht.published_of_blank hb] at hshown
    exact (congrArg (·.1) hshown).trans hs

/-- **One event.** Only a search that is not blank can give a session something to open. -/
theorem Cleared.step (h : Cleared past s) (e : Event)
    (ho : OwnNumbers (s.coordinator.history (s.requests e))) :
    Cleared (past ++ s.coordinator.history (s.requests e)) (s.step e) where
  toUpToDate := h.toUpToDate.step e ho
  taken := by
    obtain ⟨c, hc⟩ := h.taken
    exact ⟨_, hc.step e⟩
  closed hb := by
    have hafter := h.toUpToDate.step e ho
    have hshown := shown_step s e
    have hquery : (s.queryAfter e).isBlank = true := query_step s e ▸ hb
    cases e with
    | search query handle =>
      have hblank : query.isBlank = true := hquery
      simp only [hblank, ↓reduceIte] at hshown
      exact congrArg (·.1) hshown
    | refresh | wait => exact autoExpanded_of_blank hafter hb (h.closed hquery) hshown
    | collapseAll => rfl
    | setText | setDocument | toggle | expandAll | next | previous | send | drop =>
      exact (congrArg (·.1) hshown).trans (h.closed hquery)

theorem Cleared.foldl (h : Cleared past s) (events : List Event)
    (ho : OwnNumbers (s.history events)) :
    Cleared (past ++ s.history events) (events.foldl Session.step s) := by
  induction events generalizing past s with
  | nil => simpa [history, traffic, Coordinator.history] using h
  | cons e rest ih =>
    rw [history_cons] at ho ⊢
    rw [← List.append_assoc]
    exact ih (h.step e ho.left) ho.right

/-! ## Matches -/

def NoMatches (s : Session) : Prop := s.matchPaths = [] ∧ s.matchCount = 0

theorem noMatches_of_result {id : Nat} (h : s.result = .ofResponse (.empty id)) : s.NoMatches :=
  ⟨congrArg (·.paths) h, congrArg (·.count) h⟩

theorem NoMatches.currentMatch (h : s.NoMatches) : s.currentMatch = none := by
  have hpaths : s.result.paths = [] := h.1
  rw [Session.currentMatch, hpaths]
  rfl

theorem Cleared.noMatches_refresh (h : Cleared past s) (hb : s.query.isBlank = true) :
    s.refresh.2.NoMatches := by
  obtain ⟨c, hc⟩ := h.taken
  exact noMatches_of_result (hc.result_refresh.trans (h.published_of_blank hb))

/-- A wait ends at once, as nothing is awaited. -/
theorem Cleared.wait?_eq (h : Cleared past s) (hb : s.query.isBlank = true) (limited : Bool) :
    s.wait? limited = some (s.refresh.2.result, s.refresh.2) := by
  rw [wait?, Coordinator.wait?_of_idle (h.idle_of_blank hb)]
  rfl

theorem Cleared.noMatches_of_looks (h : Cleared past s) (hb : s.query.isBlank = true) {e : Event}
    (he : e.Looks) : (s.step e).NoMatches := by
  cases e with
  | refresh => exact h.noMatches_refresh hb
  | wait limited =>
    rw [step_wait_of_idle (h.idle_of_blank hb)]
    exact h.noMatches_refresh hb
  | _ => exact he.elim

theorem NoMatches.step (h : s.NoMatches) {e : Event} (ht : UpToDate past (s.step e))
    (hb : (s.step e).query.isBlank = true) : (s.step e).NoMatches := by
  rcases result_step s e with hsame | hpublished
  · exact ⟨(congrArg (·.paths) hsame).trans h.1, (congrArg (·.count) hsame).trans h.2⟩
  · exact noMatches_of_result (hpublished.trans (ht.published_of_blank hb))

/-- Once the published result has been looked at, there are no matches any more. -/
theorem Cleared.noMatches_foldl (h : Cleared past s) (hb : s.query.isBlank = true)
    {events : List Event} (he : ∀ e ∈ events, e.LeavesBlank) (ho : OwnNumbers (s.history events))
    (hlooks : s.NoMatches ∨ ∃ e ∈ events, e.Looks) :
    (events.foldl Session.step s).NoMatches := by
  induction events generalizing past s with
  | nil => exact hlooks.resolve_right (by simp)
  | cons e rest ih =>
    obtain ⟨hleaves, hrest⟩ := List.forall_mem_cons.mp he
    rw [history_cons] at ho
    have hstep := h.step e ho.left
    have hblank := hleaves.step hb
    refine ih hstep hblank hrest ho.right ?_
    rcases hlooks with hnone | ⟨e', hmem, hlooks⟩
    · exact Or.inl (hnone.step hstep.toUpToDate hblank)
    · rcases List.mem_cons.mp hmem with rfl | hmem
      · exact Or.inl (h.noMatches_of_looks hb hlooks)
      · exact Or.inr ⟨e', hmem, hlooks⟩

/-- **A blank search stays cleared.** After any events and a blank search, and then any events that
are no search for something, with executors that send each response through the reply of its own
number, at any time, or drop the reply, fail or keep it: nothing is open of its own accord, every
wait ends at once and without matches, and from the first time on that the session refreshes or
waits there are no matches, their count is 0 and no match is the current one. -/
theorem blank_search_stays_cleared (rootTypeName : String) (previewLimit : Nat)
    (before after : List Event) (query : Query) (handle : SearchRequest → Handling)
    (blank : query.isBlank = true) (quiet : ∀ e ∈ after, e.LeavesBlank)
    (own : OwnNumbers
      ((fresh rootTypeName previewLimit).history (before ++ .search query handle :: after))) :
    let s := run (fresh rootTypeName previewLimit) (before ++ .search query handle :: after)
    s.autoExpanded = [] ∧
    (∀ limited, ∃ r t, s.wait? limited = some (r, t) ∧ r.paths = [] ∧ r.count = 0) ∧
    ((∃ e ∈ after, e.Looks) →
      s.matchPaths = [] ∧ s.matchCount = 0 ∧ s.currentMatch = none) := by
  intro s
  let asked := run (fresh rootTypeName previewLimit) before
  let searched := asked.step (.search query handle)
  have hs : s = after.foldl step searched := List.foldl_append
  rw [history_append, history_cons] at own
  have hasked : Cleared _ asked := (cleared_fresh rootTypeName previewLimit).foldl before own.left
  have hsearched : Cleared _ searched := hasked.step _ own.right.left
  have hblank : searched.query.isBlank = true := by
    rw [query_step]
    exact blank
  have h : Cleared _ s := hs ▸ hsearched.foldl after own.right.right
  have hb : s.query.isBlank = true := hs ▸ Event.LeavesBlank.foldl quiet hblank
  refine ⟨h.closed hb, fun limited => ⟨_, _, h.wait?_eq hb limited, h.noMatches_refresh hb⟩,
    fun hlooks => ?_⟩
  have hnone : s.NoMatches :=
    hs ▸ hsearched.noMatches_foldl hblank quiet own.right.right (Or.inr hlooks)
  exact ⟨hnone.1, hnone.2, hnone.currentMatch⟩

/-- Before a blank search: one answer that is taken over, one request still open and one answer that
is published only. -/
def unsettled : List Event :=
  [.setDocument (.array [.array [.string "x"]]) fun _ => ⟨.kept, true⟩,
    .search { term := "1" } fun _ => ⟨.sent ⟨1, ["Root[0]"], 1, ["Root"]⟩, true⟩,
    .refresh,
    .search { term := "2" } fun _ => ⟨.kept, true⟩,
    .search { term := "3" } fun _ => ⟨.sent ⟨3, ["Root[0][0]"], 1, ["Root", "Root[0]"]⟩, false⟩]

/-- After it: a late answer, another document, and a look at what is published. -/
def belated : List Event :=
  [.send 2 ⟨2, ["Root[0]"], 1, ["Root"]⟩,
    .setDocument (.array []) fun _ => ⟨.dropped, false⟩,
    .wait false,
    .next]

set_option maxRecDepth 20000 in
theorem blank_search_stays_cleared_belated :
    (run (fresh "Root" 120) unsettled).autoExpanded = ["Root"] ∧
      (run (fresh "Root" 120) unsettled).refresh.1 = true ∧
      let s := run (fresh "Root" 120)
        (unsettled ++ .search { term := " " } (fun _ => ⟨.kept, true⟩) :: belated)
      s.autoExpanded = [] ∧ s.matchPaths = [] ∧ s.currentMatch = none := by
  have own : OwnNumbers ((fresh "Root" 120).history
      (unsettled ++ .search { term := " " } (fun _ => ⟨.kept, true⟩) :: belated)) := by
    decide +kernel
  have quiet : ∀ e ∈ belated, e.LeavesBlank := by simp [belated, Event.LeavesBlank]
  obtain ⟨hclosed, _, hnone⟩ := blank_search_stays_cleared "Root" 120 unsettled belated
    { term := " " } (fun _ => ⟨.kept, true⟩) (by decide +kernel) quiet own
  have hlooks : ∃ e ∈ belated, e.Looks := ⟨.wait false, by simp [belated], trivial⟩
  obtain ⟨hpaths, _, hcurrent⟩ := hnone hlooks
  refine ⟨?_, by decide +kernel, hclosed, hpaths, hcurrent⟩
  have hopened : (run (fresh "Root" 120) unsettled).autoExpanded =
      if (distinct ["Root"]).isEmpty then [] else distinct ["Root"] := rfl
  rw [hopened, distinct_eq_self (by decide)]
  rfl

end JsonExplorer.Session
