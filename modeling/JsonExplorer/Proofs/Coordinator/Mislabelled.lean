import JsonExplorer.Proofs.Coordinator.Moves

/-!
Responses under wrong numbers. A response is taken in under the number it carries, and nothing
holds it to the number of the reply it is sent through.

* A number that has not been given out is settled all the same (`settled_le_iff_numbersGiven`), and
  the answers of the requests up to it are discarded when they come (`standing_foldl`).
* A number that is too low uses the reply up and leaves its request awaited (`Coherent.stranded`),
  until the next search or until it is given up (`Stranded.foldl`).
* Apart from that, using the reply of the latest request leaves nothing to wait for
  (`Coherent.settledLatest_iff_of_answers`).

`wrong_numbers` has all of this for every run.
-/

namespace JsonExplorer.Coordinator

variable {c d : Coordinator} {q : SearchRequest} {r : SearchResponse} {ns : List Note}

/-! ## Numbers that have not been given out -/

/-- Every response sent carries a number that has been given out by then, not necessarily that of
its reply. -/
def NumbersGiven (c : Coordinator) : List Event → Prop
  | [] => True
  | e :: rest => (∀ q r, Note.sent q r ∈ c.notes e → r.sequenceId ≤ (c.step e).issued) ∧
      (c.step e).NumbersGiven rest

theorem settled_accept (c : Coordinator) (r : SearchResponse) :
    (c.accept r).settled =
      if r.sequenceId < c.issued ∨ r.sequenceId ≤ c.settled then c.settled else r.sequenceId := by
  unfold accept
  split <;> rfl

theorem settled_accept_le_iff (hs : c.settled ≤ c.issued) :
    (c.accept r).settled ≤ c.issued ↔ r.sequenceId ≤ c.issued := by
  rw [settled_accept]
  split <;> omega

theorem settled_use_le_iff (hs : c.settled ≤ c.issued) (hq : q.sequenceId ≤ c.issued)
    (use : ReplyUse) : (c.useOutstanding q use).settled ≤ c.issued ↔
      ∀ q' r, Note.sent q' r ∈ useNotes q use → r.sequenceId ≤ c.issued := by
  have haccept : ∀ r, ((c.release q.sequenceId).accept r).settled ≤ c.issued ↔
      r.sequenceId ≤ c.issued := fun r => settled_accept_le_iff (c := c.release q.sequenceId) hs
  cases use with
  | sent r => simp [useOutstanding, useNotes, haccept]
  | dropped => simp [useOutstanding, useNotes, haccept, SearchResponse.empty, hq]
  | kept => simp [useOutstanding, useNotes, hs]

theorem settled_finish_le_iff (hq : q.sequenceId ≤ c.issued) (completed : Bool) :
    (c.finish q completed).settled ≤ c.issued ↔ c.settled ≤ c.issued := by
  cases completed with
  | true => rfl
  | false =>
    have hle := settled_le_accept c (.empty q.sequenceId)
    exact ⟨Nat.le_trans hle, fun hs => (settled_accept_le_iff hs).mpr hq⟩

/-- **One event** goes past the latest number exactly if a response is sent under a number that has
not been given out. -/
theorem Move.settled_le_iff (h : Coherent c) (hs : c.settled ≤ c.issued) (m : Move c ns d) :
    d.settled ≤ d.issued ↔ ∀ q r, Note.sent q r ∈ ns → r.sequenceId ≤ d.issued := by
  cases m with
  | rest => simpa using hs
  | blank =>
    have hle : c.settled ≤ c.issued + 1 := Nat.le_succ_of_le hs
    simpa [issued_accept] using
      (settled_accept_le_iff (c := { c with issued := c.issued + 1 }) hle).mpr (Nat.le_refl _)
  | @search q use completed hq =>
    have hle : (c.handOver q).settled ≤ (c.handOver q).issued := by
      show c.settled ≤ q.sequenceId
      omega
    have huse := settled_use_le_iff hle (Nat.le_refl _) use
    have hfinish := settled_finish_le_iff (c := (c.handOver q).useOutstanding q use)
      (q := q) (by rw [issued_useOutstanding]; exact Nat.le_refl _) completed
    rw [issued_useOutstanding, huse] at hfinish
    rw [issued_finish, issued_useOutstanding, hfinish]
    simp only [sent_mem_searchNotes]
  | @use q use hq =>
    have huse := settled_use_le_iff hs (h.outstanding_le q hq) use
    rw [issued_useOutstanding]
    exact huse
  | abandon =>
    simpa [issued_accept] using (settled_accept_le_iff hs).mpr (Nat.le_refl _)

/-- **A run** stays within the numbers given out exactly if its responses do. -/
theorem settled_le_iff_numbersGiven (h : Coherent c) (hs : c.settled ≤ c.issued)
    (events : List Event) :
    (∀ first, first <+: events → (first.foldl step c).settled ≤ (first.foldl step c).issued) ↔
      c.NumbersGiven events := by
  induction events generalizing c with
  | nil => simpa [NumbersGiven] using hs
  | cons e rest ih =>
    have hstep := (h.move e).settled_le_iff h hs
    constructor
    · intro hall
      have he : (c.step e).settled ≤ (c.step e).issued := hall [e] (by simp)
      refine ⟨hstep.mp he, (ih (h.step e) he).mp fun first hf => ?_⟩
      exact hall (e :: first) (List.prefix_cons_iff.mpr (Or.inr ⟨first, rfl, hf⟩))
    · rintro ⟨hgiven, hrest⟩ first hf
      rcases List.prefix_cons_iff.mp hf with rfl | ⟨more, rfl, hmore⟩
      · exact hs
      · exact (ih (h.step e) (hstep.mpr hgiven)).mpr hrest more hmore

/-- Responses under their own numbers are under numbers that have been given out. -/
theorem numbersGiven_of_own (h : Coherent c) {events : List Event}
    (own : OwnNumbers (c.history events)) : c.NumbersGiven events := by
  induction events generalizing c with
  | nil => trivial
  | cons e rest ih =>
    refine ⟨fun q r hs => ?_, ih (h.step e) own.right⟩
    rw [own.left q r hs]
    exact (h.move e).id_le h hs

/-! ## The reply of the latest request -/

theorem settled_finish_accept_eq_iff (hq : q.sequenceId = c.issued) (completed : Bool) :
    ((c.accept r).finish q completed).settled = c.issued ↔ c.settled ≤ c.issued ∧
      (r.sequenceId = c.issued ∨
        r.sequenceId < c.issued ∧ (c.settled = c.issued ∨ completed = false)) := by
  cases completed with
  | true =>
    simp only [finish, ↓reduceIte, settled_accept, Bool.true_eq_false, or_false]
    split <;> omega
  | false =>
    simp only [finish, Bool.false_eq_true, ↓reduceIte, settled_accept, issued_accept,
      SearchResponse.empty, hq, or_true, and_true]
    split <;> split <;> omega

/-- **The reply of the latest request.** With its response taken in, nothing is awaited and the
latest number is published, unless a number past it has been settled or the response is one of an
older request; that one is of no use, but also no harm if the request had been given up before or
its executor fails. -/
theorem Coherent.settledLatest_iff_of_answers (h : Coherent c) (m : Move c ns d)
    (hr : Answers ns q r) (hq : q.sequenceId = d.issued) :
    d.SettledLatest ↔ c.settled ≤ d.issued ∧ (r.sequenceId = d.issued ∨
      r.sequenceId < d.issued ∧ (c.settled = d.issued ∨ Note.failed q ∈ ns)) := by
  rw [(h.of_move m).settledLatest_iff]
  obtain ⟨before, completed, hi, hs, -, rfl, hfailed⟩ := m.of_answers hr
  rw [← hi] at hq ⊢
  rw [settled_finish_accept_eq_iff hq, hfailed, hs]

/-! ## What a wrong number does later on -/

/-- As long as no number past the settled one is given out, nothing is published. -/
theorem Move.standing_eq (h : Coherent c) (m : Move c ns d)
    (hgiven : ∀ q r, Note.sent q r ∈ ns → r.sequenceId ≤ d.issued) (hd : d.issued ≤ c.settled) :
    d.standing = c.standing := by
  cases m with
  | rest => rfl
  | blank =>
    rw [issued_accept] at hd
    exact standing_accept (c := { c with issued := c.issued + 1 }) hd
  | @search q use completed hq =>
    rw [issued_finish, issued_useOutstanding] at hd hgiven
    have huse : ((c.handOver q).useOutstanding q use).standing = c.standing :=
      standing_use (c := c.handOver q) hd fun q' r hs =>
        Nat.le_trans (hgiven q' r (sent_mem_searchNotes.mpr hs)) hd
    have hle : q.sequenceId ≤ ((c.handOver q).useOutstanding q use).settled := by
      rw [settled_of_standing huse]
      exact hd
    rw [standing_finish hle completed, huse]
  | @use q use hq =>
    rw [issued_useOutstanding] at hd hgiven
    exact standing_use (Nat.le_trans (h.outstanding_le q hq) hd) fun q' r hs =>
      Nat.le_trans (hgiven q' r hs) hd
  | abandon =>
    rw [issued_accept] at hd
    exact standing_accept hd

/-- **A number that is too high.** Until it is passed by those given out, nothing is published. -/
theorem standing_foldl (h : Coherent c) {more : List Event} (given : c.NumbersGiven more)
    (hi : (more.foldl step c).issued ≤ c.settled) :
    (more.foldl step c).standing = c.standing := by
  induction more generalizing c with
  | nil => rfl
  | cons e rest ih =>
    have hle : (c.step e).issued ≤ c.settled :=
      Nat.le_trans (issued_le_foldl (c.step e) rest) hi
    have hstep : (c.step e).standing = c.standing := (h.move e).standing_eq h given.1 hle
    have hrest : (rest.foldl step (c.step e)).issued ≤ (c.step e).settled := by
      rw [settled_of_standing hstep]
      exact hi
    exact (ih (h.step e) given.2 hrest).trans hstep

/-- The latest request is awaited, and its reply is gone. -/
structure Stranded (c : Coordinator) : Prop where
  awaited : c.settled < c.issued
  replies_older : ∀ q ∈ c.outstanding, q.sequenceId < c.issued

/-- **A number that is too low** uses the reply up and leaves its request awaited. -/
theorem Coherent.stranded (h : Coherent c) (m : Move c ns d) (hs : Note.sent q r ∈ ns)
    (hq : q.sequenceId = d.issued) (hf : Note.failed q ∉ ns) (hw : c.settled < d.issued)
    (hr : r.sequenceId < d.issued) : Stranded d := by
  have hle := (h.of_move m).outstanding_le
  obtain ⟨before, completed, hi, hsettled, hout, hd, hfailed⟩ := m.of_answers (Or.inl hs)
  have hcompleted : completed = true := by simpa [hfailed] using hf
  have hstale : before.accept r = before := accept_of_stale (Or.inl (hi ▸ hr))
  obtain rfl : d = before := by rw [hd, hcompleted, hstale]; rfl
  refine ⟨hsettled ▸ hw, fun q' hin => Nat.lt_of_le_of_ne (hle q' hin) ?_⟩
  exact hq ▸ hout q' hin

/-- Older replies do not help the request, as long as their responses carry their own numbers. -/
theorem Stranded.of_move (h : Stranded c) (m : Move c ns d) (own : OwnNumbers ns)
    (hi : d.issued = c.issued) (ha : Note.abandoned c.issued ∉ ns) : Stranded d := by
  have hrelease : ∀ q ∈ c.outstanding, ∀ r : SearchResponse, r.sequenceId = q.sequenceId →
      Stranded ((c.release q.sequenceId).accept r) := by
    intro q hin r hr
    have hold : r.sequenceId < c.issued := hr ▸ h.replies_older q hin
    have hstale : (c.release q.sequenceId).accept r = c.release q.sequenceId :=
      accept_of_stale (Or.inl hold)
    rw [hstale]
    exact ⟨h.awaited, fun q' hin' => h.replies_older q' (mem_release.mp hin').1⟩
  cases m with
  | rest => exact h
  | blank =>
    rw [issued_accept] at hi
    exact absurd hi (Nat.succ_ne_self _)
  | @search q use completed hq =>
    rw [issued_finish, issued_useOutstanding] at hi
    exact absurd (hq.symm.trans hi) (Nat.succ_ne_self _)
  | @use q use hin =>
    cases use with
    | sent r => exact hrelease q hin r (own q r (by simp [useNotes]))
    | dropped => exact hrelease q hin _ rfl
    | kept => exact h
  | abandon => simp at ha

/-- Until the next search, or until it is given up, the request stays awaited. -/
theorem Stranded.foldl (h : Stranded c) (hc : Coherent c) {more : List Event}
    (own : OwnNumbers (c.history more)) (hi : (more.foldl step c).issued = c.issued)
    (ha : Note.abandoned c.issued ∉ c.history more) : Stranded (more.foldl step c) := by
  induction more generalizing c with
  | nil => exact h
  | cons e rest ih =>
    rw [history, List.mem_append, not_or] at ha
    have hle : c.issued ≤ (c.step e).issued := issued_le_foldl c [e]
    have hge := issued_le_foldl (c.step e) rest
    have hsame : (c.step e).issued = c.issued := by
      rw [List.foldl_cons] at hi
      omega
    have hstep := h.of_move (hc.move e) own.left hsame ha.1
    rw [← hsame] at hi ha
    exact ih hstep (hc.step e) own.right hi ha.2

theorem Stranded.wait_blocks (h : Stranded c) : c.phase = .awaiting ∧ c.wait? false = none := by
  have hw : c.phase = .awaiting := (phase_eq_awaiting_iff c).mpr h.awaited
  exact ⟨hw, by simp [wait?, hw]⟩

/-- **What wrong numbers do.** In every run, whatever numbers responses carry, the published result
has the settled number. The settled number never exceeds those given out exactly if no response is
sent under a number that has not been given out. Sending or dropping the reply of the latest request
leaves nothing awaited and the latest number published exactly if no number past it was settled and
the response carries it, or carries an older one where that does no harm. From then on, with
responses under numbers that have been given out: as long as no number past the settled one is given
out, nothing is awaited and no answer is published. And once the reply of the latest request is used
up by a response that carries an older number, later responses under their own numbers do not end a
wait without a time limit, up to the next search. -/
theorem wrong_numbers (events : List Event) :
    let c := run events
    c.published.sequenceId = c.settled ∧
    ((∀ first, first <+: events → (run first).settled ≤ (run first).issued) ↔
      NumbersGiven {} events) ∧
    (∀ e q r, Answers (c.notes e) q r → q.sequenceId = (c.step e).issued →
      ((c.step e).SettledLatest ↔ c.settled ≤ (c.step e).issued ∧
        (r.sequenceId = (c.step e).issued ∨ r.sequenceId < (c.step e).issued ∧
          (c.settled = (c.step e).issued ∨ Note.failed q ∈ c.notes e)))) ∧
    (∀ more, c.NumbersGiven more → (run (events ++ more)).issued ≤ c.settled →
      (run (events ++ more)).phase = .idle ∧ (run (events ++ more)).published = c.published) ∧
    (∀ e q r, Note.sent q r ∈ c.notes e → Note.failed q ∉ c.notes e →
      q.sequenceId = (c.step e).issued → c.settled < (c.step e).issued →
      r.sequenceId < (c.step e).issued → ∀ more, OwnNumbers ((c.step e).history more) →
      Note.abandoned (c.step e).issued ∉ (c.step e).history more →
      (run (events ++ e :: more)).issued = (c.step e).issued →
      (run (events ++ e :: more)).phase = .awaiting ∧
        (run (events ++ e :: more)).wait? false = none) := by
  intro c
  have h : Coherent c := coherent_run events
  refine ⟨h.published_id, settled_le_iff_numbersGiven coherent_init (Nat.le_refl _) events,
    fun e q r hr hq => h.settledLatest_iff_of_answers (h.move e) hr hq, ?_, ?_⟩
  · intro more given hi
    rw [run_append] at hi ⊢
    have hstanding := standing_foldl h given hi
    refine ⟨(phase_eq_idle_iff _).mpr ?_, congrArg Prod.snd hstanding⟩
    rw [settled_of_standing hstanding]
    exact hi
  · intro e q r hs hf hq hw hr more own ha hi
    have hstranded := h.stranded (h.move e) hs hq hf hw hr
    rw [run_append, List.foldl_cons] at hi ⊢
    exact (hstranded.foldl (h.step e) own hi ha).wait_blocks

/-- Three requests, each answered while it is the latest: the first under too low a number, the
second under too high a one, the third under its own. -/
def mislabelled : List Event :=
  [.search (.string "x") { term := "x" } fun _ => ⟨.kept, true⟩,
    .send 1 ⟨0, ["Root"], 1, []⟩,
    .search (.string "x") { term := "x" } fun _ => ⟨.kept, true⟩,
    .send 2 ⟨7, ["Root"], 1, []⟩,
    .search (.string "x") { term := "x" } fun _ => ⟨.kept, true⟩,
    .send 3 ⟨3, ["Root"], 1, []⟩]

/-- The first answer leaves its request awaited, the second settles a number that has not been
given out, and the third is discarded. -/
theorem mislabelled_not_settled :
    (run (mislabelled.take 2)).phase = .awaiting ∧
      (run (mislabelled.take 2)).outstanding.isEmpty = true ∧
      (run (mislabelled.take 4)).issued < (run (mislabelled.take 4)).settled ∧
      (run mislabelled).issued < (run mislabelled).published.sequenceId := by
  decide +kernel

set_option maxRecDepth 20000 in
theorem wrong_numbers_mislabelled :
    (run (mislabelled.take 2)).wait? false = none ∧
      ¬ NumbersGiven {} (mislabelled.take 4) ∧
      (run mislabelled).phase = .idle ∧
      (run mislabelled).published = (run (mislabelled.take 4)).published := by
  obtain ⟨_, _, _, _, hlow⟩ := wrong_numbers (mislabelled.take 1)
  obtain ⟨_, hiff, _, hhigh, _⟩ := wrong_numbers (mislabelled.take 4)
  have hfirst : (run (mislabelled.take 1)).notes (.send 1 ⟨0, ["Root"], 1, []⟩) =
      [.sent ⟨1, .string "x", { term := "x" }⟩ ⟨0, ["Root"], 1, []⟩] := rfl
  have given : (run (mislabelled.take 4)).NumbersGiven (mislabelled.drop 4) :=
    numbersGiven_of_own (coherent_run _) (by decide +kernel)
  have hblocked : (run (mislabelled.take 2)).wait? false = none :=
    (hlow _ _ _ (hfirst ▸ List.mem_singleton_self _) (by simp [hfirst]) rfl (by decide +kernel)
      (by decide +kernel) [] (by simp [history, OwnNumbers]) (by simp [history]) rfl).2
  have hexceeded : ¬ NumbersGiven {} (mislabelled.take 4) := fun h =>
    absurd (hiff.mpr h _ (List.prefix_refl _)) (by decide +kernel)
  exact ⟨hblocked, hexceeded, hhigh _ given (by decide +kernel)⟩

end JsonExplorer.Coordinator
