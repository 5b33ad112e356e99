import JsonExplorer.Proofs.Coordinator.Moves
import Mathlib.Data.List.Chain

/-!
The results a coordinator publishes. Whatever numbers responses carry, an event publishes one result
at most, under a number higher than that of the one before and no lower than any given out
(`Advance`). Numbers therefore tell the published results of a run apart (`chain_publications`), and
between two moments the published result is the same exactly if nothing has been published
(`Leads`).
-/

namespace JsonExplorer.Coordinator

variable {b c d : Coordinator} {q : SearchRequest} {r : SearchResponse} {ns : List Note}

/-- What an event does to the published result: it leaves it, or puts one of a higher number in its
place, no lower than any number given out. -/
inductive Advance (c d : Coordinator) : Prop
  | same (hr : d.revision = c.revision) (hp : d.published = c.published)
  | next (hr : d.revision = c.revision + 1)
      (hlt : c.published.sequenceId < d.published.sequenceId)
      (hle : d.issued ≤ d.published.sequenceId)

/-- A response that is not published changes nothing. -/
theorem accept_eq_self_of_revision (h : (c.accept r).revision = c.revision) : c.accept r = c := by
  unfold accept at h ⊢
  split
  · rfl
  · rename_i hfresh
    rw [if_neg hfresh] at h
    exact absurd h (Nat.succ_ne_self _)

/-- Taking in a response, with nothing published since `c`. -/
theorem Coherent.advance_accept (h : Coherent b) (hr : b.revision = c.revision)
    (hp : b.published = c.published) (r : SearchResponse) : Advance c (b.accept r) := by
  by_cases hstale : r.sequenceId < b.issued ∨ r.sequenceId ≤ b.settled
  · rw [accept_of_stale hstale]
    exact .same hr hp
  · have hid := h.published_id
    rw [accept_of_fresh (by omega) (by omega)]
    refine .next (congrArg (· + 1) hr) ?_ ?_
    · show c.published.sequenceId < r.sequenceId
      rw [← hp]
      omega
    · show b.issued ≤ r.sequenceId
      omega

theorem Coherent.advance_use (h : Coherent b) (hr : b.revision = c.revision)
    (hp : b.published = c.published) (q : SearchRequest) (use : ReplyUse) :
    Advance c (b.useOutstanding q use) := by
  cases use with
  | sent r => exact (h.release q.sequenceId).advance_accept hr hp r
  | dropped => exact (h.release q.sequenceId).advance_accept hr hp _
  | kept => exact .same hr hp

/-- The failure of the executor of the latest request publishes nothing if its reply already has
made for a result. -/
theorem Coherent.advance_finish (h : Coherent b) (ha : Advance c b) (hq : q.sequenceId = b.issued)
    (completed : Bool) : Advance c (b.finish q completed) := by
  cases completed with
  | true => exact ha
  | false =>
    cases ha with
    | same hr hp => exact h.advance_accept hr hp _
    | next hr hlt hle =>
      have hsettled : q.sequenceId ≤ b.settled := by
        rw [hq, ← h.published_id]
        exact hle
      have hstale : b.finish q false = b := accept_of_stale (Or.inr hsettled)
      rw [hstale]
      exact .next hr hlt hle

/-- **One event** publishes at most once. -/
theorem Move.advance (h : Coherent c) (m : Move c ns d) : Advance c d := by
  cases m with
  | rest => exact .same rfl rfl
  | blank => exact h.issue.advance_accept (c := c) rfl rfl _
  | @search q use completed hq =>
    have hover := h.handOver hq
    refine (hover.use q use).advance_finish (hover.advance_use (c := c) rfl rfl q use) ?_ completed
    rw [issued_useOutstanding]
    rfl
  | use use hq => exact h.advance_use rfl rfl _ use
  | abandon => exact h.advance_accept rfl rfl _

theorem Coherent.advance (h : Coherent c) (e : Event) : Advance c (c.step e) :=
  (h.move e).advance h

/-! ## Runs -/

/-- The results that a run from `c` on publishes, in order, each with the highest number given out
by then. -/
def publications (c : Coordinator) : List Event → List (Nat × SearchResult)
  | [] => []
  | e :: rest =>
    let d := c.step e
    (if d.revision = c.revision then [] else [(d.issued, d.published)]) ++ d.publications rest

theorem publications_cons_of_same {e : Event} (hr : (c.step e).revision = c.revision)
    (rest : List Event) : c.publications (e :: rest) = (c.step e).publications rest := by
  simp [publications, hr]

theorem publications_cons_of_next {e : Event} (hr : (c.step e).revision = c.revision + 1)
    (rest : List Event) : c.publications (e :: rest) =
      ((c.step e).issued, (c.step e).published) :: (c.step e).publications rest := by
  simp [publications, hr]

/-- Nothing that is published is left out. -/
theorem Coherent.revision_foldl (h : Coherent c) (events : List Event) :
    (events.foldl Coordinator.step c).revision = c.revision + (c.publications events).length := by
  induction events generalizing c with
  | nil => rfl
  | cons e rest ih =>
    rw [List.foldl_cons, ih (h.step e)]
    cases h.advance e with
    | same hr hp => rw [publications_cons_of_same hr, hr]
    | next hr hlt hle =>
      rw [publications_cons_of_next hr, hr, List.length_cons]
      omega

/-- **Numbers of published results rise.** -/
theorem Coherent.chain_publications (h : Coherent c) (events : List Event) :
    (c.published.sequenceId :: (c.publications events).map (·.2.sequenceId)).IsChain (· < ·) := by
  induction events generalizing c with
  | nil => exact List.isChain_singleton _
  | cons e rest ih =>
    have hrest := ih (h.step e)
    cases h.advance e with
    | same hr hp =>
      rw [publications_cons_of_same hr, ← hp]
      exact hrest
    | next hr hlt hle =>
      rw [publications_cons_of_next hr]
      exact List.isChain_cons_cons.mpr ⟨hlt, hrest⟩

theorem Coherent.issued_le_of_mem_publications (h : Coherent c) {events : List Event}
    {p : Nat × SearchResult} (hp : p ∈ c.publications events) : p.1 ≤ p.2.sequenceId := by
  induction events generalizing c with
  | nil => simp [publications] at hp
  | cons e rest ih =>
    cases h.advance e with
    | same hr _ =>
      rw [publications_cons_of_same hr] at hp
      exact ih (h.step e) hp
    | next hr hlt hle =>
      rw [publications_cons_of_next hr] at hp
      rcases List.mem_cons.mp hp with rfl | hp
      · exact hle
      · exact ih (h.step e) hp

/-- From `c` on to `d` either nothing was published, or the published result has a higher number. -/
inductive Leads (c d : Coordinator) : Prop
  | same (hr : d.revision = c.revision) (hp : d.published = c.published)
  | newer (hr : c.revision < d.revision)
      (hlt : c.published.sequenceId < d.published.sequenceId)

theorem Leads.refl (c : Coordinator) : Leads c c := .same rfl rfl

theorem Leads.advance (h : Leads c d) {e : Coordinator} (ha : Advance d e) : Leads c e := by
  cases ha with
  | same hr hp =>
    cases h with
    | same hr' hp' => exact .same (hr.trans hr') (hp.trans hp')
    | newer hr' hlt => exact .newer (hr ▸ hr') (hp ▸ hlt)
  | next hr hlt hle =>
    cases h with
    | same hr' hp' => exact .newer (by omega) (hp' ▸ hlt)
    | newer hr' hlt' => exact .newer (by omega) (Nat.lt_trans hlt' hlt)

theorem Leads.foldl (h : Leads c d) (hd : Coherent d) (events : List Event) :
    Leads c (events.foldl Coordinator.step d) := by
  induction events generalizing d with
  | nil => exact h
  | cons e rest ih => exact ih (h.advance (hd.advance e)) (hd.step e)

/-- Numbers tell whether something has been published. -/
theorem Leads.sequenceId_ne_iff (h : Leads c d) :
    d.published.sequenceId ≠ c.published.sequenceId ↔ c.revision < d.revision := by
  cases h with
  | same hr hp => simp [hr, hp]
  | newer hr hlt => simp [hr, Nat.ne_of_gt hlt]

theorem Leads.published_ne_iff (h : Leads c d) :
    d.published ≠ c.published ↔ c.revision < d.revision := by
  cases h with
  | same hr hp => simp [hr, hp]
  | newer hr hlt =>
    have hne : d.published ≠ c.published := fun he => Nat.ne_of_gt hlt (by rw [he])
    simp [hr, hne]

end JsonExplorer.Coordinator
