import JsonExplorer.Proofs.Session.Traffic

/-!
What a session shows of the results it has taken over. Events change it in four ways: a blank search
clears it but for the matches, a refresh or a wait may take over the published result, closing all
rows closes those it opened too, and a move changes the cursor (`shown_step`). Changes of the text
or the document leave it as it is until their search is answered.
-/

namespace JsonExplorer.Session

variable {s t : Session}

/-- What a session shows of the results it has taken over. -/
def shown (s : Session) : List String × Cursor × SearchResult :=
  (s.autoExpanded, s.cursor, s.result)

theorem shown_search (s : Session) (query : Query) (handle : SearchRequest → Handling) :
    (s.search query handle).2.shown = if query.isBlank then ([], {}, s.result) else s.shown := by
  by_cases hb : query.isBlank = true <;> simp only [search, hb] <;> rfl

/-- A change of the document changes nothing that is shown until its search is answered. -/
theorem shown_install (s : Session) (document : Option Value) (error : Option Json.DecodeError)
    (handle : SearchRequest → Handling) : (s.install document error handle).shown = s.shown := by
  by_cases hb : s.query.isBlank = true
  · simp only [install, hb, ↓reduceIte]
    rfl
  · simp only [install, hb, Bool.false_eq_true, ↓reduceIte]
    rw [shown_search, if_neg hb]
    rfl

theorem shown_setText (s : Session) (text : String) (handle : SearchRequest → Handling) :
    (s.setText text handle).shown = s.shown := by
  unfold setText
  cases decode text <;> exact shown_install _ _ _ _

theorem coordinator_refresh (s : Session) : s.refresh.2.coordinator = s.coordinator :=
  congrArg (·.1) (inquiry_refresh s)

theorem shown_refresh (s : Session) : s.refresh.2.shown = s.shown ∨
    s.refresh.2.shown = (s.apply s.refresh.2.coordinator.published).shown := by
  rw [coordinator_refresh]
  by_cases h : s.coordinator.published.sequenceId = s.result.sequenceId
  · exact Or.inl (by simp [refresh, h])
  · exact Or.inr (by simp [refresh, h])

/-- A wait that ends is a refresh with what is published by then. -/
theorem wait?_eq_some {limited : Bool} {r : SearchResult} (h : s.wait? limited = some (r, t)) :
    s.step (.wait limited) = t ∧ r = t.result ∧
      t = { s with coordinator := t.coordinator }.refresh.2 := by
  have hstep : s.step (.wait limited) = t := by simp [step, h]
  refine ⟨hstep, ?_⟩
  unfold wait? at h
  obtain ⟨⟨latest, c⟩, -, hc⟩ := Option.map_eq_some_iff.mp h
  simp only [Prod.mk.injEq] at hc
  obtain ⟨hr, ht⟩ := hc
  have hcoordinator : t.coordinator = c := by rw [← ht, coordinator_refresh]
  rw [hcoordinator]
  exact ⟨by rw [← hr, ht], ht.symm⟩

theorem shown_wait (s : Session) (limited : Bool) :
    (s.step (.wait limited)).shown = s.shown ∨ (s.step (.wait limited)).shown =
      (s.apply (s.step (.wait limited)).coordinator.published).shown := by
  cases h : s.wait? limited with
  | none => exact Or.inl (by simp [step, h])
  | some w =>
    obtain ⟨hstep, -, ht⟩ := wait?_eq_some h
    rw [hstep, ht]
    exact shown_refresh { s with coordinator := w.2.coordinator }

/-- **What an event does to what is shown.** -/
theorem shown_step (s : Session) (e : Event) :
    match e with
    | .search query _ =>
      (s.step e).shown = if query.isBlank then ([], {}, s.result) else s.shown
    | .refresh | .wait _ => (s.step e).shown = s.shown ∨
      (s.step e).shown = (s.apply (s.step e).coordinator.published).shown
    | .collapseAll => (s.step e).shown = ([], s.cursor, s.result)
    | .next => (s.step e).shown = (s.autoExpanded, s.cursor.next s.matchPaths.length, s.result)
    | .previous =>
      (s.step e).shown = (s.autoExpanded, s.cursor.previous s.matchPaths.length, s.result)
    | _ => (s.step e).shown = s.shown := by
  cases e with
  | setText text handle => exact shown_setText s text handle
  | setDocument document handle => exact shown_install _ _ _ _
  | search query handle => exact shown_search s query handle
  | refresh => exact shown_refresh s
  | wait limited => exact shown_wait s limited
  | toggle | expandAll | collapseAll | next | previous | send | drop => rfl

/-- **What an event does to the result.** It leaves it, or takes over the published one. -/
theorem result_step (s : Session) (e : Event) :
    (s.step e).result = s.result ∨ (s.step e).result = (s.step e).coordinator.published := by
  have ht := shown_step s e
  cases e with
  | search query handle =>
    refine Or.inl ((congrArg (·.2.2) ht).trans ?_)
    by_cases hb : query.isBlank = true <;> simp only [hb] <;> rfl
  | refresh | wait =>
    exact ht.imp (fun h => congrArg (·.2.2) h) (fun h => congrArg (·.2.2) h)
  | setText | setDocument | toggle | expandAll | collapseAll | next | previous | send | drop =>
    exact Or.inl (congrArg (·.2.2) ht)

end JsonExplorer.Session
