import JsonExplorer.Proofs.Coordinator.Published
import JsonExplorer.Proofs.Session.Shown

/-!
What a session has taken over of the published results. It compares numbers only, which is enough
since no number is published twice: a session takes over a result exactly if something has been
published since it last took one over, and has the published result afterwards
(`no_result_missed_or_repeated`).
-/

namespace JsonExplorer.Session

open Coordinator (Coherent Leads publications)

variable {s t : Session} {c : Coordinator}

/-- A refresh leaves the result, or takes over the published one. -/
theorem result_refresh (s : Session) :
    (s.refresh.2.result = s.result ∧
        s.coordinator.published.sequenceId = s.result.sequenceId) ∨
      s.refresh.2.result = s.coordinator.published := by
  by_cases h : s.coordinator.published.sequenceId = s.result.sequenceId
  · exact Or.inl ⟨by simp [refresh, h], h⟩
  · exact Or.inr (by simp [refresh, h, apply])

/-! ## What has been taken over -/

/-- The coordinator as it was when the session last took over a result; `c` if it has not. A result
that is taken over has another number than the one before, so it is another result. -/
def lastTaken (s : Session) (c : Coordinator) : List Event → Coordinator
  | [] => c
  | e :: rest =>
    let t := s.step e
    t.lastTaken (if t.result = s.result then c else t.coordinator) rest

/-- The result of the session is the one that was published at `c`. -/
structure Taken (c : Coordinator) (s : Session) : Prop where
  coherent : Coherent s.coordinator
  leads : Leads c s.coordinator
  result : s.result = c.published

theorem taken_fresh (rootTypeName : String) (previewLimit : Nat) :
    Taken {} (fresh rootTypeName previewLimit) where
  coherent := Coordinator.coherent_init
  leads := .refl _
  result := rfl

/-- **One event.** -/
theorem Taken.step (h : Taken c s) (e : Event) :
    Taken (if (s.step e).result = s.result then c else (s.step e).coordinator) (s.step e) := by
  have hcoherent : Coherent (s.step e).coordinator := by
    rw [coordinator_step]
    exact h.coherent.foldl _
  split
  · rename_i hsame
    refine ⟨hcoherent, ?_, hsame.trans h.result⟩
    rw [coordinator_step]
    exact h.leads.foldl h.coherent _
  · rename_i hchanged
    exact ⟨hcoherent, .refl _, (result_step s e).resolve_left hchanged⟩

theorem Taken.foldl (h : Taken c s) (events : List Event) :
    Taken (s.lastTaken c events) (events.foldl Session.step s) := by
  induction events generalizing c s with
  | nil => exact h
  | cons e rest ih => exact ih (h.step e)

theorem refresh_fst_iff (s : Session) :
    s.refresh.1 = true ↔ s.coordinator.published.sequenceId ≠ s.result.sequenceId := by
  by_cases h : s.coordinator.published.sequenceId = s.result.sequenceId <;> simp [refresh, h]

/-- There is something to take over exactly if something was published since. -/
theorem Taken.refresh_fst_iff (h : Taken c s) :
    s.refresh.1 = true ↔ c.revision < s.coordinator.revision := by
  rw [Session.refresh_fst_iff, h.result]
  exact h.leads.sequenceId_ne_iff

/-- With equal numbers the results are equal. -/
theorem Taken.result_refresh (h : Taken c s) : s.refresh.2.result = s.coordinator.published := by
  rcases Session.result_refresh s with ⟨hresult, hid⟩ | hresult
  · have hpublished : s.coordinator.published = c.published := by
      cases h.leads with
      | same _ hp => exact hp
      | newer _ hlt => exact absurd (h.result ▸ hid) (Nat.ne_of_gt hlt)
    rw [hresult, hpublished, h.result]
  · exact hresult

theorem Taken.result_wait (h : Taken c s) {limited : Bool} {r : SearchResult}
    (hw : s.wait? limited = some (r, t)) :
    r = t.coordinator.published ∧ t.result = t.coordinator.published := by
  obtain ⟨hstep, hr, ht⟩ := wait?_eq_some hw
  have hcoordinator : t.coordinator =
      (s.requests (.wait limited)).foldl Coordinator.step s.coordinator := by
    rw [← hstep, coordinator_step]
  have hwaited : Taken c { s with coordinator := t.coordinator } := by
    rw [hcoordinator]
    exact ⟨h.coherent.foldl _, h.leads.foldl h.coherent _, h.result⟩
  have hresult : t.result = t.coordinator.published := by
    rw [ht, coordinator_refresh]
    exact hwaited.result_refresh
  exact ⟨hr.trans hresult, hresult⟩

/-- **No result is missed or repeated by comparing numbers.** In every run of a coordinator,
whatever numbers responses carry, the published results have rising numbers, each no lower than any
given out by then, and a response that is not published leaves both the phase and the published
result as they are. So in every run of a session there is a result to take over exactly if the
published one is another than when a result was last taken over, which is exactly if something was
published since; and after a refresh, or a wait that ends, the session has the matches of the
published result. -/
theorem no_result_missed_or_repeated :
    (∀ events : List Coordinator.Event,
      let results := publications {} events
      (Coordinator.run events).revision = results.length ∧
      (0 :: results.map (·.2.sequenceId)).Pairwise (· < ·) ∧
      ∀ p ∈ results, p.1 ≤ p.2.sequenceId) ∧
    (∀ (c : Coordinator) (r : SearchResponse), (c.accept r).revision = c.revision →
      (c.accept r).phase = c.phase ∧ (c.accept r).published = c.published) ∧
    ∀ (rootTypeName : String) (previewLimit : Nat) (events : List Event),
      let s := run (fresh rootTypeName previewLimit) events
      let taken := (fresh rootTypeName previewLimit).lastTaken {} events
      (s.refresh.1 = true ↔ s.coordinator.published ≠ taken.published) ∧
      (s.refresh.1 = true ↔ taken.revision < s.coordinator.revision) ∧
      (s.refresh.2.matchPaths = s.refresh.2.coordinator.published.paths ∧
        s.refresh.2.matchCount = s.refresh.2.coordinator.published.count) ∧
      ∀ limited r t, s.wait? limited = some (r, t) →
        r = t.coordinator.published ∧ t.matchPaths = t.coordinator.published.paths ∧
          t.matchCount = t.coordinator.published.count := by
  refine ⟨fun events => ⟨?_, ?_, ?_⟩, fun c r hr => ?_, ?_⟩
  · have hcount := Coordinator.coherent_init.revision_foldl events
    rw [Nat.zero_add] at hcount
    exact hcount
  · exact List.isChain_iff_pairwise.mp (Coordinator.coherent_init.chain_publications events)
  · exact fun p hp => Coordinator.coherent_init.issued_le_of_mem_publications hp
  · rw [Coordinator.accept_eq_self_of_revision hr]
    exact ⟨rfl, rfl⟩
  · intro rootTypeName previewLimit events s taken
    have h : Taken taken s := (taken_fresh rootTypeName previewLimit).foldl events
    have hrefresh : s.refresh.2.result = s.refresh.2.coordinator.published := by
      rw [coordinator_refresh]
      exact h.result_refresh
    refine ⟨h.refresh_fst_iff.trans h.leads.published_ne_iff.symm, h.refresh_fst_iff,
      ⟨congrArg (·.paths) hrefresh, congrArg (·.count) hrefresh⟩, fun limited r t hw => ?_⟩
    obtain ⟨hr, ht⟩ := h.result_wait hw
    exact ⟨hr, congrArg (·.paths) ht, congrArg (·.count) ht⟩

/-- A request answered under too low a number and given up, one answered under too high a number,
and one whose executor fails. -/
def misnumbered : List Event :=
  [.search { term := "1" } fun _ => ⟨.kept, true⟩,
    .send 1 ⟨0, ["Root.a"], 1, []⟩,
    .wait true,
    .search { term := "2" } fun _ => ⟨.kept, true⟩,
    .send 2 ⟨7, ["Root.b"], 1, []⟩,
    .search { term := "3" } fun _ => ⟨.dropped, false⟩]

set_option maxRecDepth 20000 in
theorem no_result_missed_or_repeated_misnumbered :
    let s := run (fresh "Root" 120) misnumbered
    (s.coordinator.accept ⟨3, ["Root.c"], 1, []⟩).phase = s.coordinator.phase ∧
      s.refresh.1 = true ∧ s.refresh.2.matchPaths = ["Root.b"] ∧
      ∃ r t, s.wait? false = some (r, t) ∧ r.sequenceId = 7 ∧ t.matchPaths = ["Root.b"] := by
  intro s
  obtain ⟨_, hdiscard, hsession⟩ := no_result_missed_or_repeated
  obtain ⟨_, hpublished, hmatches, hwait⟩ := hsession "Root" 120 misnumbered
  have hstale : (s.coordinator.accept ⟨3, ["Root.c"], 1, []⟩).revision =
      s.coordinator.revision := by decide +kernel
  have hsince : ((fresh "Root" 120).lastTaken {} misnumbered).revision <
      s.coordinator.revision := by decide +kernel
  have hshown : s.refresh.2.coordinator.published.paths = ["Root.b"] := by decide +kernel
  have hends : (s.wait? false).isSome = true := by decide +kernel
  obtain ⟨⟨r, t⟩, hw⟩ := Option.isSome_iff_exists.mp hends
  obtain ⟨hr, ht, _⟩ := hwait false r t hw
  have hsame : t.coordinator.published = s.coordinator.published := by
    obtain ⟨hstep, _⟩ := wait?_eq_some hw
    rw [← hstep, coordinator_step]
    rfl
  have hseven : s.coordinator.published = ⟨7, ["Root.b"], 1, []⟩ := by decide +kernel
  refine ⟨(hdiscard _ _ hstale).1, hpublished.mpr hsince, hmatches.1.trans hshown, r, t, hw, ?_⟩
  rw [hr, ht, hsame, hseven]
  exact ⟨rfl, rfl⟩

end JsonExplorer.Session
