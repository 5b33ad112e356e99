import JsonExplorer.Proofs.Coordinator.History

/-!
How the numbering, the published result and the outstanding replies of a coordinator hang together
with the notes its events have left.

* `Numbered` speaks of the notes alone: numbers are given out once each, up to the highest one.
* `Recorded` is what every elementary move keeps: giving out a number, handing a request over,
  taking a reply away, taking in a response.
* `Consistent` adds that a request that is awaited has its reply outstanding. Between the moves of
  one event this can fail, so it is proved event by event.
* `consistent_run` carries it over a whole run, as long as responses carry the number of the reply
  they are sent through.
-/

namespace JsonExplorer.Coordinator

structure Numbered (past : List Note) (issued : Nat) : Prop where
  dispatched_le : ∀ q, Note.dispatched q ∈ past → q.sequenceId ≤ issued
  dispatched_unique : ∀ q q', Note.dispatched q ∈ past → Note.dispatched q' ∈ past →
    q.sequenceId = q'.sequenceId → q = q'
  sent_dispatched : ∀ q r, Note.sent q r ∈ past → Note.dispatched q ∈ past
  used_le : ∀ id ∈ repliesUsed past, id ≤ issued

structure Recorded (past : List Note) (c : Coordinator) : Prop extends Numbered past c.issued where
  settled_le : c.settled ≤ c.issued
  published_id : c.published.sequenceId = c.settled
  published_of : ResultOf past c.settled c.published
  outstanding_iff : ∀ q, q ∈ c.outstanding ↔
    Note.dispatched q ∈ past ∧ q.sequenceId ∉ repliesUsed past

structure Consistent (past : List Note) (c : Coordinator) : Prop extends Recorded past c where
  awaited : c.settled < c.issued → ∃ q ∈ c.outstanding, q.sequenceId = c.issued

theorem consistent_init : Consistent [] {} where
  dispatched_le q hq := by simp at hq
  dispatched_unique q q' hq := by simp at hq
  sent_dispatched q r hs := by simp at hs
  used_le id hid := by simp [repliesUsed] at hid
  settled_le := Nat.le_refl _
  published_id := rfl
  published_of := Or.inr ⟨rfl, Or.inl fun q hq => by simp at hq⟩
  outstanding_iff q := by simp
  awaited h := by simp at h

variable {past : List Note} {issued : Nat} {c : Coordinator} {q : SearchRequest} {n : Note}

/-! ## Notes and numbers -/

/-- Only a note of its dispatch can make a request dispatched. -/
theorem dispatched_mem_append (hd : ∀ q, n ≠ .dispatched q) (q : SearchRequest) :
    Note.dispatched q ∈ past ++ [n] ↔ Note.dispatched q ∈ past := by
  simp [Ne.symm (hd q)]

theorem Numbered.mono (h : Numbered past issued) {more : Nat} (hm : issued ≤ more) :
    Numbered past more :=
  { h with
    dispatched_le := fun q hq => Nat.le_trans (h.dispatched_le q hq) hm
    used_le := fun id hid => Nat.le_trans (h.used_le id hid) hm }

theorem Numbered.dispatch (h : Numbered past issued) (hq : q.sequenceId = issued + 1) :
    Numbered (past ++ [.dispatched q]) (issued + 1) where
  dispatched_le q' hq' := by
    rcases List.mem_append.mp hq' with hq' | hq'
    · exact Nat.le_succ_of_le (h.dispatched_le q' hq')
    · obtain rfl : q' = q := by simpa using hq'
      exact Nat.le_of_eq hq
  dispatched_unique q₁ q₂ h₁ h₂ he := by
    have hnew : ∀ q', Note.dispatched q' ∈ past → q'.sequenceId ≠ q.sequenceId := fun q' hq' => by
      have := h.dispatched_le q' hq'
      omega
    simp only [List.mem_append, List.mem_singleton, Note.dispatched.injEq] at h₁ h₂
    rcases h₁ with h₁ | rfl
    · rcases h₂ with h₂ | rfl
      · exact h.dispatched_unique q₁ q₂ h₁ h₂ he
      · exact absurd he (hnew q₁ h₁)
    · rcases h₂ with h₂ | rfl
      · exact absurd he.symm (hnew q₂ h₂)
      · rfl
  sent_dispatched q' r hs := by
    have hs : Note.sent q' r ∈ past := by simpa using hs
    exact List.mem_append_left _ (h.sent_dispatched q' r hs)
  used_le id hid := by
    have hid : id ∈ repliesUsed past := by
      simpa [repliesUsed_append, repliesUsed, Note.replyUsed?] using hid
    exact Nat.le_succ_of_le (h.used_le id hid)

/-- A note about a request that has been dispatched, or about none. -/
theorem Numbered.note (h : Numbered past issued) (hd : ∀ q, n ≠ .dispatched q)
    (hs : ∀ q r, n = .sent q r → Note.dispatched q ∈ past)
    (hu : ∀ id, n.replyUsed? = some id → id ≤ issued) : Numbered (past ++ [n]) issued where
  dispatched_le := by simpa only [dispatched_mem_append hd] using h.dispatched_le
  dispatched_unique := by simpa only [dispatched_mem_append hd] using h.dispatched_unique
  sent_dispatched q r hq := by
    rw [dispatched_mem_append hd]
    rcases List.mem_append.mp hq with hq | hq
    · exact h.sent_dispatched q r hq
    · exact hs q r (List.mem_singleton.mp hq).symm
  used_le id hid := by
    rw [repliesUsed_append, List.mem_append] at hid
    rcases hid with hid | hid
    · exact h.used_le id hid
    · exact hu id (by simpa [repliesUsed] using hid)

/-! ## Elementary moves -/

theorem Recorded.issue (h : Recorded past c) : Recorded past { c with issued := c.issued + 1 } :=
  { h with
    toNumbered := h.toNumbered.mono (Nat.le_succ _)
    settled_le := Nat.le_succ_of_le h.settled_le }

/-- Handing over a request of the next number. -/
theorem Recorded.handOver (h : Recorded past c) (hq : q.sequenceId = c.issued + 1) :
    Recorded (past ++ [.dispatched q]) (c.handOver q) where
  toNumbered := by
    show Numbered _ q.sequenceId
    rw [hq]
    exact h.toNumbered.dispatch hq
  settled_le := by
    have := h.settled_le
    show c.settled ≤ q.sequenceId
    omega
  published_id := h.published_id
  published_of := by
    -- what is published has a number that was settled, and `q` has a newer one
    refine h.published_of.append fun q' hq' => ?_
    have hs := h.settled_le
    obtain rfl : q' = q := by simpa using hq'
    show q'.sequenceId ≠ c.settled
    omega
  outstanding_iff q' := by
    have hnew : q.sequenceId ∉ repliesUsed past := fun hid => by
      have := h.used_le _ hid
      omega
    have hused : repliesUsed (past ++ [.dispatched q]) = repliesUsed past := by
      simp [repliesUsed, Note.replyUsed?]
    show q' ∈ c.outstanding ++ [q] ↔ _
    rw [hused]
    simp only [List.mem_append, List.mem_singleton, h.outstanding_iff, Note.dispatched.injEq]
    constructor
    · rintro (⟨hd, hu⟩ | rfl)
      · exact ⟨Or.inl hd, hu⟩
      · exact ⟨Or.inr rfl, hnew⟩
    · rintro ⟨hd | rfl, hu⟩
      · exact Or.inl ⟨hd, hu⟩
      · exact Or.inr rfl

/-- A note of something that hands nothing over and uses no reply. -/
theorem Recorded.note (h : Recorded past c) (hd : ∀ q, n ≠ .dispatched q)
    (hu : n.replyUsed? = none) : Recorded (past ++ [n]) c where
  toNumbered := by
    refine h.toNumbered.note hd ?_ (by simp [hu])
    rintro q r rfl
    simp [Note.replyUsed?] at hu
  settled_le := h.settled_le
  published_id := h.published_id
  published_of := h.published_of.append fun q hq => absurd (List.mem_singleton.mp hq).symm (hd q)
  outstanding_iff q := by
    rw [dispatched_mem_append hd, repliesUsed_append]
    simpa [repliesUsed, hu] using h.outstanding_iff q

/-- Taking away an outstanding reply that is sent or dropped. -/
theorem Recorded.release (h : Recorded past c) (hq : q ∈ c.outstanding)
    (hn : n = .dropped q ∨ ∃ r, n = .sent q r) :
    Recorded (past ++ [n]) (c.release q.sequenceId) := by
  have hdq : Note.dispatched q ∈ past := ((h.outstanding_iff q).mp hq).1
  have hd : ∀ q', n ≠ .dispatched q' := by
    rcases hn with rfl | ⟨r, rfl⟩ <;> simp
  have hu : n.replyUsed? = some q.sequenceId := by
    rcases hn with rfl | ⟨r, rfl⟩ <;> rfl
  have hs : ∀ q' r, n = .sent q' r → q' = q := by
    rcases hn with rfl | ⟨r, rfl⟩ <;> simp_all
  refine ⟨h.toNumbered.note hd (fun q' r hr => hs q' r hr ▸ hdq) ?_, h.settled_le,
    h.published_id, ?_, fun q' => ?_⟩
  · intro id hid
    obtain rfl : q.sequenceId = id := by simpa [hu] using hid
    exact h.dispatched_le q hdq
  · exact h.published_of.append fun q' hq' => absurd (List.mem_singleton.mp hq').symm (hd q')
  · have hused : repliesUsed (past ++ [n]) = repliesUsed past ++ [q.sequenceId] := by
      simp [repliesUsed, hu]
    rw [mem_release, h.outstanding_iff, dispatched_mem_append hd, hused, List.mem_append,
      List.mem_singleton, not_or, and_assoc]

/-- Taking in a response of a number that has been given out. -/
theorem Recorded.accept (h : Recorded past c) {r : SearchResponse} (hr : r.sequenceId ≤ c.issued)
    (hs : ResultOf past r.sequenceId (.ofResponse r)) : Recorded past (c.accept r) := by
  rcases accept_cases hr with ⟨he, _⟩ | ⟨he, hid⟩
  · rw [he]
    exact h
  · rw [he]
    exact { h with
      settled_le := Nat.le_refl _
      published_id := hid
      published_of := hid ▸ hs }

/-! ## Events -/

theorem Consistent.handOver (h : Consistent past c) (hq : q.sequenceId = c.issued + 1) :
    Consistent (past ++ [.dispatched q]) (c.handOver q) where
  toRecorded := h.toRecorded.handOver hq
  awaited _ := ⟨q, List.mem_append_right _ (List.mem_singleton_self q), rfl⟩

theorem Consistent.accept (h : Consistent past c) {r : SearchResponse}
    (hr : r.sequenceId ≤ c.issued) (hs : ResultOf past r.sequenceId (.ofResponse r)) :
    Consistent past (c.accept r) where
  toRecorded := h.toRecorded.accept hr hs
  awaited hw := by
    have hle := settled_le_accept c r
    rw [issued_accept] at hw ⊢
    rw [outstanding_accept]
    exact h.awaited (by omega)

/-- A blank search is answered as soon as its number is given out. -/
theorem Consistent.blank (h : Consistent past c) :
    Consistent past ({ c with issued := c.issued + 1 }.accept (.empty (c.issued + 1))) where
  toRecorded := by
    refine h.toRecorded.issue.accept (Nat.le_refl _) (Or.inr ⟨rfl, Or.inl fun q hq => ?_⟩)
    have := h.dispatched_le q hq
    show q.sequenceId ≠ c.issued + 1
    omega
  awaited hw := by
    have hlatest := settled_accept_latest (c := { c with issued := c.issued + 1 })
      (r := .empty (c.issued + 1)) rfl
    rw [issued_accept] at hw
    exact absurd hlatest (Nat.not_le_of_lt hw)

/-- Sending or dropping an outstanding reply. If it is the one of the latest request, nothing is
left to wait for, and otherwise the latest one stays outstanding. -/
theorem Consistent.answer (h : Consistent past c) (hq : q ∈ c.outstanding)
    (hn : n = .dropped q ∨ ∃ r, n = .sent q r) {r : SearchResponse}
    (hr : r.sequenceId = q.sequenceId)
    (hs : ResultOf (past ++ [n]) q.sequenceId (.ofResponse r)) :
    Consistent (past ++ [n]) ((c.release q.sequenceId).accept r) where
  toRecorded := by
    have hle : q.sequenceId ≤ c.issued := h.dispatched_le q ((h.outstanding_iff q).mp hq).1
    refine (h.toRecorded.release hq hn).accept ?_ (hr.symm ▸ hs)
    rw [hr]
    exact hle
  awaited hw := by
    have hle := settled_le_accept (c.release q.sequenceId) r
    rw [issued_accept] at hw ⊢
    rw [outstanding_accept]
    by_cases hlatest : q.sequenceId = c.issued
    · have := settled_accept_latest (c := c.release q.sequenceId) (r := r) (hr.trans hlatest)
      exact absurd this (Nat.not_le_of_lt hw)
    · obtain ⟨q', hq', hid⟩ := h.awaited (Nat.lt_of_le_of_lt hle hw)
      exact ⟨q', mem_release.mpr ⟨hq', fun he => hlatest (he ▸ hid)⟩, hid⟩

theorem Consistent.use (h : Consistent past c) (hq : q ∈ c.outstanding) (use : ReplyUse)
    (hr : ∀ r, use = .sent r → r.sequenceId = q.sequenceId) :
    Consistent (past ++ useNotes q use) (c.useOutstanding q use) := by
  cases use with
  | sent r =>
    refine h.answer hq (Or.inr ⟨r, rfl⟩) (hr r rfl) (Or.inl ⟨q, r, ?_, rfl, rfl⟩)
    exact List.mem_append_right _ (List.mem_singleton_self _)
  | dropped =>
    refine h.answer hq (Or.inl rfl) rfl (Or.inr ⟨rfl, Or.inr (Or.inl ⟨q, rfl, Or.inl ?_⟩)⟩)
    exact List.mem_append_right _ (List.mem_singleton_self _)
  | kept => simpa [useNotes, useOutstanding] using h

theorem Consistent.finish (h : Consistent past c) (hq : q.sequenceId ≤ c.issued)
    (completed : Bool) :
    Consistent (past ++ failureNotes q completed) (c.finish q completed) := by
  cases completed with
  | true => simpa [failureNotes, Coordinator.finish] using h
  | false =>
    have hf : Consistent (past ++ [.failed q]) c :=
      { h.toRecorded.note (n := .failed q) (by simp) rfl with awaited := h.awaited }
    refine hf.accept hq (Or.inr ⟨rfl, Or.inr (Or.inl ⟨q, rfl, Or.inr ?_⟩)⟩)
    exact List.mem_append_right _ (List.mem_singleton_self _)

theorem issued_useOutstanding (use : ReplyUse) : (c.useOutstanding q use).issued = c.issued := by
  cases use <;> simp [useOutstanding, issued_accept, release]

theorem Consistent.search (h : Consistent past c) {document : Value} {query : Query}
    {handle : SearchRequest → Handling} (hb : query.isBlank = false)
    (ho : OwnNumbers (c.notes (.search document query handle))) :
    Consistent (past ++ c.notes (.search document query handle))
      (c.search document query handle).2 := by
  generalize hq : c.nextRequest document query = q
  have hid : q.sequenceId = c.issued + 1 := by rw [← hq]; rfl
  have hold : ∀ q' ∈ c.outstanding, q'.sequenceId ≤ c.issued := fun q' hq' =>
    h.dispatched_le q' ((h.outstanding_iff q').mp hq').1
  have hnotes : c.notes (.search document query handle) =
      .dispatched q :: (useNotes q (handle q).reply ++ failureNotes q (handle q).completed) := by
    simp [notes, hb, hq]
  have hown : ∀ r, (handle q).reply = .sent r → r.sequenceId = q.sequenceId := fun r hr =>
    ho q r (by simp [hnotes, hr, useNotes])
  have hin : q ∈ (c.handOver q).outstanding := List.mem_append_right _ (List.mem_singleton_self q)
  have hused := (h.handOver hid).use hin (handle q).reply hown
  have hle : q.sequenceId ≤ ((c.handOver q).useOutstanding q (handle q).reply).issued := by
    rw [issued_useOutstanding]
    exact Nat.le_refl _
  rw [hnotes, search_eq hb hq hold]
  simpa using hused.finish hle (handle q).completed

/-- **One event.** The invariant is kept, with the notes of the event added. -/
theorem Consistent.step (h : Consistent past c) (e : Event) (ho : OwnNumbers (c.notes e)) :
    Consistent (past ++ c.notes e) (c.step e) := by
  cases e with
  | search document query handle =>
    by_cases hb : query.isBlank = true
    · have hs : (c.search document query handle).2 =
          { c with issued := c.issued + 1 }.accept (.empty (c.issued + 1)) := by
        simp [Coordinator.search, hb]
      simpa [Coordinator.step, notes, hb, hs] using h.blank
    · exact h.search (by simpa using hb) ho
  | send id r =>
    cases hq : c.outstanding? id with
    | none => simpa [Coordinator.step, notes, hq, send_of_none] using h
    | some q =>
      have hr : r.sequenceId = q.sequenceId := ho q r (by simp [notes, hq])
      have hu := h.use (outstanding?_eq_some hq).1 (.sent r) (by rintro _ ⟨⟩; exact hr)
      simpa [Coordinator.step, notes, hq, send_of_some hq, useNotes, useOutstanding] using hu
  | drop id =>
    cases hq : c.outstanding? id with
    | none => simpa [Coordinator.step, notes, hq, Coordinator.drop, send_of_none] using h
    | some q =>
      have hid := (outstanding?_eq_some hq).2
      have hu := h.use (outstanding?_eq_some hq).1 .dropped (by simp)
      simpa [Coordinator.step, notes, hq, Coordinator.drop, send_of_some hq, useNotes,
        useOutstanding, hid] using hu
  | abandon =>
    show Consistent _ c.abandon
    rw [abandon_eq_accept]
    by_cases hw : c.settled < c.issued
    · have hn : c.notes .abandon = [.abandoned c.issued] := by simp [notes, phase, hw]
      have ha : Consistent (past ++ [.abandoned c.issued]) c :=
        { h.toRecorded.note (n := .abandoned c.issued) (by simp) rfl with awaited := h.awaited }
      rw [hn]
      refine ha.accept (Nat.le_refl _) (Or.inr ⟨rfl, Or.inr (Or.inr ?_)⟩)
      exact List.mem_append_right _ (List.mem_singleton_self _)
    · have hn : c.notes .abandon = [] := by simp [notes, phase, hw]
      have hs : c.accept (.empty c.issued) = c :=
        accept_of_stale (Or.inr (Nat.le_of_not_lt hw))
      simpa [hn, hs] using h

/-- **A run.** The invariant is kept, with the notes of all its events added. -/
theorem Consistent.foldl (h : Consistent past c) (events : List Event)
    (ho : OwnNumbers (c.history events)) :
    Consistent (past ++ c.history events) (events.foldl Coordinator.step c) := by
  induction events generalizing past c with
  | nil => simpa [history] using h
  | cons e rest ih =>
    have hrest := ih (h.step e ho.left) ho.right
    simpa [history] using hrest

theorem consistent_run (events : List Event) (ho : OwnNumbers (history {} events)) :
    Consistent (history {} events) (run events) :=
  consistent_init.foldl events ho

end JsonExplorer.Coordinator
