import JsonExplorer.Proofs.Coordinator.Consistent

/-!
The latest request wins. In every state of every run in which responses carry the number of the
reply they are sent through, what is published answers the latest request as soon as its reply has
been used, and a wait never outlasts the outstanding replies (`latest_request_wins`).
-/

namespace JsonExplorer.Coordinator

variable {past : List Note} {c : Coordinator}

/-- Nothing is awaited exactly when the published result has the latest number. -/
theorem Recorded.idle_iff (h : Recorded past c) :
    c.phase = .idle ↔ c.published.sequenceId = c.issued := by
  have hs := h.settled_le
  rw [phase_eq_idle_iff, h.published_id]
  omega

theorem Recorded.settled_eq (h : Recorded past c) (idle : c.phase = .idle) :
    c.settled = c.issued :=
  Nat.le_antisymm h.settled_le ((phase_eq_idle_iff c).mp idle)

/-- While an answer is awaited, the reply to the latest request has not been used. -/
theorem Consistent.awaiting (h : Consistent past c) (hw : c.phase = .awaiting) :
    ∃ q ∈ c.outstanding, q.sequenceId = c.issued ∧ Note.dispatched q ∈ past ∧
      c.issued ∉ repliesUsed past := by
  obtain ⟨q, hq, hid⟩ := h.awaited ((phase_eq_awaiting_iff c).mp hw)
  obtain ⟨hd, hu⟩ := (h.outstanding_iff q).mp hq
  exact ⟨q, hq, hid, hd, hid ▸ hu⟩

/-- When every reply has been used, nothing is awaited. -/
theorem Consistent.idle_of_allUsed (h : Consistent past c) (hu : AllUsed past) :
    c.phase = .idle := by
  cases hp : c.phase with
  | idle => rfl
  | awaiting =>
    obtain ⟨q, _, hid, hd, hn⟩ := h.awaiting hp
    exact absurd (hid ▸ hu q hd) hn

theorem wait?_of_idle (h : c.phase = .idle) (limited : Bool) :
    c.wait? limited = some (c.published, c) := by
  simp [wait?, h]

/-- **The latest request wins, and nobody is left waiting.** After any events at all: no number is
settled that was not given out; the published result has the settled number, so that nothing is
awaited exactly when it has the latest number; an answer is awaited only while the reply to the
latest request is neither sent nor dropped; the published result was sent for the request of its
number or is the empty one. Once every reply has been sent or dropped, a wait returns at once, with
the result of the latest number. -/
theorem latest_request_wins (events : List Event) (own : OwnNumbers (history {} events)) :
    let c := run events
    let past := history {} events
    c.settled ≤ c.issued ∧
    c.published.sequenceId = c.settled ∧
    (c.phase = .idle ↔ c.published.sequenceId = c.issued) ∧
    (c.phase = .awaiting → ∃ q ∈ c.outstanding, q.sequenceId = c.issued ∧
      Note.dispatched q ∈ past ∧ c.issued ∉ repliesUsed past) ∧
    ((∃ q r, Note.dispatched q ∈ past ∧ Note.sent q r ∈ past ∧
        q.sequenceId = c.published.sequenceId ∧ c.published = .ofResponse r) ∨
      c.published = .ofResponse (.empty c.published.sequenceId)) ∧
    (AllUsed past → c.phase = .idle ∧ c.published.sequenceId = c.issued ∧
      ∀ limited, c.wait? limited = some (c.published, c)) := by
  intro c past
  have h : Consistent past c := consistent_run events own
  refine ⟨h.settled_le, h.published_id, h.idle_iff, h.awaiting, ?_, fun hu => ?_⟩
  · rw [h.published_id]
    rcases h.published_of with ⟨q, r, hs, hq, hr⟩ | ⟨hr, _⟩
    · exact Or.inl ⟨q, r, h.sent_dispatched q r hs, hs, hq, hr⟩
    · exact Or.inr hr
  · have hidle := h.idle_of_allUsed hu
    exact ⟨hidle, h.idle_iff.mp hidle, wait?_of_idle hidle⟩

/-- Two requests of which the second is answered first, and a third whose executor fails but keeps
the reply and drops it later. -/
def overtaken : List Event :=
  [.search (.string "x") { term := "1" } fun _ => ⟨.kept, true⟩,
    .search (.string "y") { term := "2" } fun _ => ⟨.kept, true⟩,
    .send 2 ⟨2, ["Root"], 1, []⟩,
    .send 1 ⟨1, [], 0, []⟩,
    .search .null { term := "3" } fun _ => ⟨.kept, false⟩,
    .drop 3]

theorem latest_request_wins_overtaken :
    OwnNumbers (history {} overtaken) ∧ AllUsed (history {} overtaken) ∧
      (run overtaken).phase = .idle ∧
      (run overtaken).published.sequenceId = (run overtaken).issued ∧
      (run overtaken).wait? false = some ((run overtaken).published, run overtaken) := by
  have own : OwnNumbers (history {} overtaken) := by decide +kernel
  have used : AllUsed (history {} overtaken) := by decide +kernel
  obtain ⟨_, _, _, _, _, hdone⟩ := latest_request_wins overtaken own
  obtain ⟨hidle, hlatest, hwait⟩ := hdone used
  exact ⟨own, used, hidle, hlatest, hwait false⟩

end JsonExplorer.Coordinator
