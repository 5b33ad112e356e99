import JsonExplorer.Proofs.Coordinator.Moves

/-!
What becomes of one request. It can be answered, lose its reply, have its executor fail and be given
up, one after the other and in any order. The first of these that happens while it is the latest
request counts: it publishes the result of the request, and until the next search nothing that
concerns this request or an older one changes what is published (`first_outcome_is_final`).
-/

namespace JsonExplorer.Coordinator

variable {c d : Coordinator} {q : SearchRequest} {r : SearchResponse} {ns : List Note}

/-! ## Executors that fail -/

/-- The response that counts for a request whose executor fails: the one it has sent by then, or
else the empty one. -/
def counted (q : SearchRequest) : ReplyUse → SearchResponse
  | .sent r => r
  | .dropped | .kept => .empty q.sequenceId

/-- The answer to the latest request, if nothing as new has been settled. -/
theorem standing_accept_latest (hi : r.sequenceId = c.issued) (hs : c.settled < c.issued) :
    (c.accept r).standing = (c.issued, .ofResponse r) := by
  rw [accept_of_fresh (by omega) (by omega), hi]
  rfl

/-- What has come of the reply stands, and the failure counts only if nothing has. -/
theorem standing_failed (hs : c.settled ≤ c.issued) (hq : q.sequenceId = c.issued + 1)
    {use : ReplyUse} (own : OwnNumbers (useNotes q use)) :
    (((c.handOver q).useOutstanding q use).finish q false).standing =
      (q.sequenceId, .ofResponse (counted q use)) := by
  have hlt : c.settled < q.sequenceId := by omega
  have hanswer : ∀ r : SearchResponse, r.sequenceId = q.sequenceId →
      ((((c.handOver q).release q.sequenceId).accept r).finish q false).standing =
        (q.sequenceId, .ofResponse r) := by
    intro r hr
    have hstanding : (((c.handOver q).release q.sequenceId).accept r).standing =
        (q.sequenceId, .ofResponse r) :=
      standing_accept_latest (c := (c.handOver q).release q.sequenceId) hr hlt
    have hsettled : (((c.handOver q).release q.sequenceId).accept r).settled = q.sequenceId :=
      congrArg Prod.fst hstanding
    rw [standing_finish (Nat.le_of_eq hsettled.symm), hstanding]
  cases use with
  | sent r => exact hanswer r (own q r (by simp [useNotes]))
  | dropped => exact hanswer _ rfl
  | kept => exact standing_accept_latest (c := c.handOver q) rfl hlt

theorem Coherent.standing_search_failed (h : Coherent c) (hs : c.settled ≤ c.issued)
    {document : Value} {query : Query} {handle : SearchRequest → Handling}
    (hb : query.isBlank = false) (own : OwnNumbers (c.notes (.search document query handle)))
    (hf : (handle (c.nextRequest document query)).completed = false) :
    (c.search document query handle).2.standing =
      (c.issued + 1, .ofResponse
        (counted (c.nextRequest document query)
          (handle (c.nextRequest document query)).reply)) := by
  have hown : OwnNumbers (useNotes (c.nextRequest document query)
      (handle (c.nextRequest document query)).reply) := fun q r hr =>
    own q r (by simpa [notes, hb] using Or.inl hr)
  rw [search_eq hb rfl h.outstanding_le, hf]
  exact standing_failed hs rfl hown

/-! ## Requests that are concluded -/

/-- The request of this number was answered, lost its reply, failed or was given up. -/
def Concluded (ns : List Note) (id : Nat) : Prop :=
  (∃ q r, Note.sent q r ∈ ns ∧ q.sequenceId = id) ∨ Lost ns id

theorem settled_use_latest (hq : q.sequenceId = c.issued) {use : ReplyUse} (hu : use ≠ .kept)
    (own : OwnNumbers (useNotes q use)) : c.issued ≤ (c.useOutstanding q use).settled := by
  cases use with
  | sent r =>
    have hr : r.sequenceId = q.sequenceId := own q r (by simp [useNotes])
    exact settled_accept_latest (c := c.release q.sequenceId) (hr.trans hq)
  | dropped => exact settled_accept_latest (c := c.release q.sequenceId) hq
  | kept => exact absurd rfl hu

/-- A use of a reply concludes nothing else, and a reply that is kept concludes nothing. -/
theorem concluded_useNotes {use : ReplyUse} {id : Nat} (h : Concluded (useNotes q use) id) :
    q.sequenceId = id ∧ use ≠ .kept := by
  cases use <;> simp_all [Concluded, Lost, useNotes]

/-- **One event** that concludes the latest request leaves nothing awaited. -/
theorem Move.settled_of_concluded (m : Move c ns d) (own : OwnNumbers ns)
    (h : Concluded ns d.issued) : d.issued ≤ d.settled := by
  cases m with
  | rest | blank => simp [Concluded, Lost] at h
  | @search q use completed hq =>
    cases completed with
    | false =>
      rw [issued_finish]
      refine settled_accept_latest ?_
      rw [issued_useOutstanding]
      rfl
    | true =>
      have hown : OwnNumbers (useNotes q use) := fun q' r hs =>
        own q' r (sent_mem_searchNotes.mpr hs)
      have huse : Concluded (useNotes q use) q.sequenceId := by
        simpa [Concluded, Lost, failureNotes, finish, issued_useOutstanding, handOver] using h
      rw [issued_finish, issued_useOutstanding]
      exact settled_use_latest (c := c.handOver q) rfl (concluded_useNotes huse).2 hown
  | @use q use hq =>
    rw [issued_useOutstanding] at h ⊢
    obtain ⟨hid, hu⟩ := concluded_useNotes h
    exact settled_use_latest hid hu own
  | abandon =>
    rw [issued_accept]
    exact settled_accept_latest rfl

/-! ## What comes later -/

/-- What can become of requests that have been made. An executor may fail long after others have
gone on making requests. -/
inductive Outcome where
  | sent (id : Nat) (response : SearchResponse)
  | dropped (id : Nat)
  | failed (id : Nat)
  | abandoned

def conclude (c : Coordinator) : Outcome → Coordinator
  | .sent id r => c.send id r
  | .dropped id => c.drop id
  | .failed id => c.accept (.empty id)
  | .abandoned => c.abandon

/-- An outcome of a request of this number or an older one, answered under its own number. -/
def Outcome.UpTo (latest : Nat) : Outcome → Prop
  | sent id r => r.sequenceId = id ∧ id ≤ latest
  | dropped id | failed id => id ≤ latest
  | abandoned => True

instance (latest : Nat) : ∀ o : Outcome, Decidable (o.UpTo latest)
  | .sent id r => inferInstanceAs (Decidable (r.sequenceId = id ∧ id ≤ latest))
  | .dropped id | .failed id => inferInstanceAs (Decidable (id ≤ latest))
  | .abandoned => .isTrue trivial

theorem standing_send (hr : r.sequenceId ≤ c.settled) (id : Nat) :
    (c.send id r).standing = c.standing := by
  unfold send
  split
  · exact standing_accept (c := c.release id) hr
  · rfl

/-- With the latest request settled, outcomes up to it change neither the latest number nor what is
published. -/
theorem conclude_of_settled (h : c.issued ≤ c.settled) {o : Outcome} (ho : o.UpTo c.issued) :
    (c.conclude o).issued = c.issued ∧ (c.conclude o).standing = c.standing := by
  cases o with
  | sent id r =>
    obtain ⟨hr, hid⟩ := ho
    exact ⟨issued_send c id r, standing_send (by omega) id⟩
  | dropped id => exact ⟨issued_send c id _, standing_send (Nat.le_trans ho h) id⟩
  | failed id => exact ⟨issued_accept c _, standing_accept (Nat.le_trans ho h)⟩
  | abandoned =>
    show c.abandon.issued = c.issued ∧ c.abandon.standing = c.standing
    rw [abandon_eq_accept]
    exact ⟨issued_accept c _, standing_accept h⟩

theorem conclude_foldl_of_settled (h : c.issued ≤ c.settled) {later : List Outcome}
    (hl : ∀ o ∈ later, o.UpTo c.issued) :
    (later.foldl conclude c).issued = c.issued ∧
      (later.foldl conclude c).standing = c.standing := by
  induction later generalizing c with
  | nil => exact ⟨rfl, rfl⟩
  | cons o rest ih =>
    obtain ⟨ho, hrest⟩ := List.forall_mem_cons.mp hl
    obtain ⟨hissued, hstanding⟩ := conclude_of_settled h ho
    have hsettled : (c.conclude o).issued ≤ (c.conclude o).settled := by
      rw [hissued, settled_of_standing hstanding]
      exact h
    rw [← hissued] at hrest
    obtain ⟨hissued', hstanding'⟩ := ih hsettled hrest
    exact ⟨hissued'.trans hissued, hstanding'.trans hstanding⟩

theorem phase_of_standing (hi : d.issued = c.issued) (hs : d.standing = c.standing) :
    d.phase = c.phase := by
  simp only [phase, hi, settled_of_standing hs]

/-- **The first outcome of a request is final.** From any state that a run leads to, with responses
under the numbers of their replies: when the executor of a search fails, nothing is awaited and the
published result is the one sent for the request before, or else the empty one of its number. And
once the latest request was answered, lost its reply, failed or was given up, nothing is awaited,
and until the next search no outcome of this request or of an older one changes that, the latest
number or the published result. -/
theorem first_outcome_is_final (events : List Event) (own : OwnNumbers (history {} events)) :
    let c := run events
    (∀ document query handle, query.isBlank = false →
      OwnNumbers (c.notes (.search document query handle)) →
      let q := c.nextRequest document query
      let d := (c.search document query handle).2
      (handle q).completed = false →
        d.phase = .idle ∧ d.published = .ofResponse (counted q (handle q).reply)) ∧
    ∀ e, OwnNumbers (c.notes e) → Concluded (c.notes e) (c.step e).issued →
      (c.step e).phase = .idle ∧
      ∀ later : List Outcome, (∀ o ∈ later, o.UpTo (c.step e).issued) →
        let d := later.foldl conclude (c.step e)
        d.phase = (c.step e).phase ∧ d.issued = (c.step e).issued ∧
          d.published = (c.step e).published := by
  intro c
  have hc : Coherent c := coherent_run events
  have hs : c.settled ≤ c.issued := (consistent_run events own).settled_le
  refine ⟨?_, fun e ho hconcluded => ?_⟩
  · intro document query handle hb ho q d hfailed
    have hstanding : d.standing = (q.sequenceId, .ofResponse (counted q (handle q).reply)) :=
      hc.standing_search_failed hs hb ho hfailed
    have hissued : d.issued = q.sequenceId := issued_search c document query handle
    refine ⟨(phase_eq_idle_iff d).mpr ?_, congrArg Prod.snd hstanding⟩
    rw [hissued]
    exact Nat.le_of_eq (congrArg Prod.fst hstanding).symm
  · have hsettled : (c.step e).issued ≤ (c.step e).settled :=
      (hc.move e).settled_of_concluded ho hconcluded
    refine ⟨(phase_eq_idle_iff _).mpr hsettled, fun later hl => ?_⟩
    obtain ⟨hissued, hstanding⟩ := conclude_foldl_of_settled hsettled hl
    exact ⟨phase_of_standing hissued hstanding, hissued, congrArg Prod.snd hstanding⟩

def pending : List Event := [.search (.string "x") { term := "x" } fun _ => ⟨.kept, true⟩]

set_option maxRecDepth 20000 in
/-- A second request is answered by an executor that fails afterwards; and if the first one is
answered instead, a failure of its executor, a second answer and a waiter that gives up come too
late. -/
theorem first_outcome_is_final_pending :
    OwnNumbers (history {} pending) ∧
      ((run pending).search (.string "y") { term := "y" }
        fun q => ⟨.sent ⟨q.sequenceId, ["Root"], 1, []⟩, false⟩).2.published =
          .ofResponse ⟨2, ["Root"], 1, []⟩ ∧
      ([.failed 1, .sent 1 (.empty 1), .abandoned].foldl conclude
        ((run pending).step (.send 1 ⟨1, ["Root"], 1, []⟩))).published =
          .ofResponse ⟨1, ["Root"], 1, []⟩ := by
  have own : OwnNumbers (history {} pending) := by decide +kernel
  obtain ⟨hfailed, hlater⟩ := first_outcome_is_final pending own
  have hanswered : (run pending).notes (.send 1 ⟨1, ["Root"], 1, []⟩) =
      [.sent ⟨1, .string "x", { term := "x" }⟩ ⟨1, ["Root"], 1, []⟩] := rfl
  refine ⟨own, (hfailed _ _ _ (by decide +kernel) (by decide +kernel) rfl).2, ?_⟩
  obtain ⟨_, hfinal⟩ := hlater (.send 1 ⟨1, ["Root"], 1, []⟩) (by decide +kernel)
    (Or.inl ⟨_, _, hanswered ▸ List.mem_singleton_self _, rfl⟩)
  exact (hfinal _ (by decide +kernel)).2.2

end JsonExplorer.Coordinator
