import JsonExplorer.Proofs.Session.Shown
import Mathlib.Logic.ExistsUnique

/-!
The match a session is at. Only taking over a result changes the list of matches, and it puts the
cursor at the start (`shown_step`); so the cursor is on a match whenever there is one
(`OnMatch.foldl`). Moving on and moving back undo each other, and moving on as often as there are
matches goes around all of them, once each (`cursor_stays_on_match`).
-/

namespace JsonExplorer

/-! ## Moves -/

attribute [ext] Cursor

namespace Cursor

variable {c : Cursor} {n : Nat}

theorem index_next (h : c.index < n) :
    (c.next n).index = if c.index + 1 < n then c.index + 1 else 0 := by
  have hn : n ≠ 0 := by omega
  simp only [next, if_neg hn]
  split
  · rename_i hlt
    exact Nat.mod_eq_of_lt hlt
  · have hend : c.index + 1 = n := by omega
    rw [hend, Nat.mod_self]

theorem index_previous (h : c.index < n) :
    (c.previous n).index = if c.index = 0 then n - 1 else c.index - 1 := by
  have hn : n ≠ 0 := by omega
  simp only [previous, if_neg hn]
  split
  · have hlast : c.index + n - 1 = n - 1 := by omega
    rw [hlast]
    exact Nat.mod_eq_of_lt (by omega)
  · have hback : c.index + n - 1 = c.index - 1 + n := by omega
    rw [hback, Nat.add_mod_right]
    exact Nat.mod_eq_of_lt (by omega)

/-- The cursor is at the start or at one of `n` places. -/
def Within (c : Cursor) (n : Nat) : Prop := c.index = 0 ∨ c.index < n

theorem Within.lt (h : c.Within n) (hn : 0 < n) : c.index < n := by
  unfold Within at h
  omega

theorem Within.next (h : c.Within n) : (c.next n).Within n := by
  cases n with
  | zero => exact h
  | succ n => exact Or.inr (c.next_lt (Nat.succ_pos n))

theorem Within.previous (h : c.Within n) : (c.previous n).Within n := by
  cases n with
  | zero => exact h
  | succ n => exact Or.inr (c.previous_lt (Nat.succ_pos n))

theorem Within.previous_next (h : c.Within n) : (c.next n).previous n = c := by
  rcases Nat.eq_zero_or_pos n with rfl | hn
  · rfl
  · apply Cursor.ext
    rw [index_previous (c.next_lt hn), index_next (h.lt hn)]
    have := h.lt hn
    split <;> split <;> omega

theorem Within.next_previous (h : c.Within n) : (c.previous n).next n = c := by
  rcases Nat.eq_zero_or_pos n with rfl | hn
  · rfl
  · apply Cursor.ext
    rw [index_next (c.previous_lt hn), index_previous (h.lt hn)]
    have := h.lt hn
    split <;> split <;> omega

/-- Around a circle of `n` places each one is `n` moves or fewer ahead, by one number of moves. -/
theorem exists_unique_moves {i j : Nat} (hi : i < n) (hj : j < n) :
    ∃! k, k < n ∧ (i + (k + 1)) % n = j := by
  have hmod : ∀ k < n, (i + (k + 1)) % n =
      if i + (k + 1) < n then i + (k + 1) else i + (k + 1) - n := by
    intro k hk
    split
    · rename_i hlt
      exact Nat.mod_eq_of_lt hlt
    · rw [Nat.mod_eq_sub_mod (by omega)]
      exact Nat.mod_eq_of_lt (by omega)
  refine ⟨if i < j then j - i - 1 else j + n - i - 1, ⟨?_, ?_⟩, ?_⟩
  · split <;> omega
  · show _ % n = j
    rw [hmod _ (by split <;> omega)]
    split <;> split <;> omega
  · rintro k ⟨hk, he⟩
    rw [hmod k hk] at he
    split at he <;> split <;> omega

end Cursor

namespace Session

variable {s t : Session}

/-! ## Runs -/

/-- The cursor is at the start or on a match. -/
def OnMatch (s : Session) : Prop := s.cursor.Within s.matchPaths.length

theorem OnMatch.of_shown (h : s.OnMatch) (ht : t.shown = s.shown) : t.OnMatch := by
  simp only [shown, Prod.mk.injEq] at ht
  unfold OnMatch matchPaths at h ⊢
  rwa [ht.2.1, ht.2.2]

theorem OnMatch.lt (h : s.OnMatch) (hn : 0 < s.matchPaths.length) :
    s.cursor.index < s.matchPaths.length := Cursor.Within.lt h hn

theorem onMatch_of_start (h : t.cursor = {}) : t.OnMatch := Or.inl (by rw [h])

/-- **One event.** A new list of matches comes with a cursor at its start. -/
theorem OnMatch.step (h : s.OnMatch) (e : Event) : (s.step e).OnMatch := by
  have ht := shown_step s e
  cases e with
  | search query handle =>
    by_cases hb : query.isBlank = true
    · simp only [hb, ↓reduceIte] at ht
      exact onMatch_of_start (congrArg (·.2.1) ht)
    · simp only [hb, Bool.false_eq_true, ↓reduceIte] at ht
      exact h.of_shown ht
  | refresh | wait =>
    rcases ht with ht | ht
    · exact h.of_shown ht
    · exact onMatch_of_start (congrArg (·.2.1) ht)
  | collapseAll => exact h
  | next => exact Cursor.Within.next h
  | previous => exact Cursor.Within.previous h
  | setText | setDocument | toggle | expandAll | send | drop => exact h.of_shown ht

theorem OnMatch.foldl (h : s.OnMatch) (events : List Event) :
    (events.foldl Session.step s).OnMatch := by
  induction events generalizing s with
  | nil => exact h
  | cons e rest ih => exact ih (h.step e)

/-! ## Current matches -/

theorem OnMatch.currentMatch_eq_none_iff (h : s.OnMatch) :
    s.currentMatch = none ↔ s.matchPaths = [] := by
  have hlength : s.matchPaths = [] ↔ s.matchPaths.length = 0 := List.length_eq_zero_iff.symm
  have hnone : s.currentMatch = none ↔ s.matchPaths.length ≤ s.cursor.index :=
    List.getElem?_eq_none_iff
  rw [hnone, hlength]
  constructor
  · intro hle
    refine Nat.eq_zero_of_not_pos fun hpos => ?_
    have := h.lt hpos
    omega
  · omega

/-- Moving on is an event like any other. -/
theorem OnMatch.nextMatch (h : s.OnMatch) : s.nextMatch.2.OnMatch := h.step .next

theorem OnMatch.previousMatch (h : s.OnMatch) : s.previousMatch.2.OnMatch := h.step .previous

theorem OnMatch.previousMatch_nextMatch (h : s.OnMatch) :
    s.nextMatch.2.previousMatch = (s.currentMatch, s) := by
  have hback : s.nextMatch.2.previousMatch.2 = s := by
    show { s with cursor := (s.cursor.next s.matchPaths.length).previous s.matchPaths.length } = s
    rw [Cursor.Within.previous_next h]
  exact Prod.ext (congrArg currentMatch hback) hback

theorem OnMatch.nextMatch_previousMatch (h : s.OnMatch) :
    s.previousMatch.2.nextMatch = (s.currentMatch, s) := by
  have hback : s.previousMatch.2.nextMatch.2 = s := by
    show { s with cursor := (s.cursor.previous s.matchPaths.length).next s.matchPaths.length } = s
    rw [Cursor.Within.next_previous h]
  exact Prod.ext (congrArg currentMatch hback) hback

/-- Moving on several times moves on by as many places, around the end. -/
theorem run_replicate_next (h : s.cursor.index < s.matchPaths.length) (k : Nat) :
    run s (List.replicate k .next) =
      { s with cursor := ⟨(s.cursor.index + k) % s.matchPaths.length⟩ } := by
  have hn : s.matchPaths.length ≠ 0 := by omega
  induction k generalizing s with
  | zero =>
    show s = _
    rw [Nat.add_zero, Nat.mod_eq_of_lt h]
  | succ k ih =>
    have hmoved : s.step .next =
        { s with cursor := ⟨(s.cursor.index + 1) % s.matchPaths.length⟩ } := by
      show { s with cursor := s.cursor.next s.matchPaths.length } = _
      rw [Cursor.next, if_neg hn]
    have hlt : (s.step .next).cursor.index < (s.step .next).matchPaths.length :=
      s.cursor.next_lt (Nat.pos_of_ne_zero hn)
    rw [List.replicate_succ]
    show run (s.step .next) _ = _
    rw [ih hlt hn, hmoved]
    show { s with cursor := ⟨((s.cursor.index + 1) % s.matchPaths.length + k) %
      s.matchPaths.length⟩ } = _
    rw [Nat.mod_add_mod, Nat.add_assoc, Nat.add_comm 1 k]

theorem OnMatch.run_around (h : s.OnMatch) :
    run s (List.replicate s.matchPaths.length .next) = s := by
  rcases Nat.eq_zero_or_pos s.matchPaths.length with hn | hn
  · rw [hn]
    rfl
  · rw [run_replicate_next (h.lt hn), Nat.add_mod_right, Nat.mod_eq_of_lt (h.lt hn)]

theorem OnMatch.visits (h : s.OnMatch) {j : Nat} (hj : j < s.matchPaths.length) :
    ∃! k, k < s.matchPaths.length ∧
      (run s (List.replicate (k + 1) .next)).cursor.index = j := by
  have hlt := h.lt (Nat.zero_lt_of_lt hj)
  simp only [run_replicate_next hlt]
  exact Cursor.exists_unique_moves hlt hj

/-- **The cursor is always on a match.** After any events, whatever the responses: the cursor is at
the start or on a match, so there is a current match exactly if there are matches at all. A move to
the next match or to the one before ends inside the list and gives nothing exactly if there are no
matches; with fewer than `2 ^ 63` matches the sums it takes fit 64 bits. Either move undoes the
other, and as many moves to the next match as there are matches come by each place once and end at
the first. -/
theorem cursor_stays_on_match (rootTypeName : String) (previewLimit : Nat) (events : List Event) :
    let s := run (fresh rootTypeName previewLimit) events
    let n := s.matchPaths.length
    (s.cursor.index = 0 ∨ s.cursor.index < n) ∧
    (s.currentMatch = none ↔ s.matchPaths = []) ∧
    (0 < n → s.nextMatch.2.cursor.index < n ∧ s.previousMatch.2.cursor.index < n) ∧
    (n < UInt64.size / 2 → s.cursor.index + 1 < UInt64.size ∧ s.cursor.index + n < UInt64.size) ∧
    (s.nextMatch.1 = none ↔ s.matchPaths = []) ∧
    (s.previousMatch.1 = none ↔ s.matchPaths = []) ∧
    s.nextMatch.2.previousMatch = (s.currentMatch, s) ∧
    s.previousMatch.2.nextMatch = (s.currentMatch, s) ∧
    (∀ j < n, ∃! k, k < n ∧ (run s (List.replicate (k + 1) .next)).cursor.index = j) ∧
    run s (List.replicate n .next) = s := by
  intro s n
  have h : s.OnMatch := (onMatch_of_start rfl).foldl events
  refine ⟨h, h.currentMatch_eq_none_iff, fun hn => ⟨s.cursor.next_lt hn, s.cursor.previous_lt hn⟩,
    fun hn => ?_, h.nextMatch.currentMatch_eq_none_iff, h.previousMatch.currentMatch_eq_none_iff,
    h.previousMatch_nextMatch, h.nextMatch_previousMatch, fun j hj => h.visits hj, h.run_around⟩
  have hcursor : s.cursor.index = 0 ∨ s.cursor.index < n := h
  unfold UInt64.size at hn ⊢
  omega

/-- Moves to the last of three matches, in a list that a shorter one then replaces. -/
def shortened : List Event :=
  [.search { term := "1" } fun _ => ⟨.kept, true⟩,
    .send 1 ⟨1, ["Root.a", "Root.b", "Root.c"], 3, []⟩,
    .refresh,
    .next,
    .next,
    .search { term := "2" } fun _ => ⟨.kept, true⟩,
    .send 2 ⟨2, ["Root.d", "Root.e"], 2, []⟩,
    .refresh,
    .next]

set_option maxRecDepth 20000 in
theorem cursor_stays_on_match_shortened :
    let s := run (fresh "Root" 120) shortened
    s.currentMatch = some "Root.e" ∧ s.nextMatch.2.cursor.index < 2 ∧
      s.cursor.index + 2 < UInt64.size ∧
      ∃! k, k < 2 ∧ (run s (List.replicate (k + 1) .next)).cursor.index = 0 := by
  intro s
  have hlength : s.matchPaths.length = 2 := by decide +kernel
  obtain ⟨_, _, hmoves, hsums, _, _, _, _, hvisits, _⟩ := cursor_stays_on_match "Root" 120 shortened
  rw [← hlength]
  exact ⟨by decide +kernel, (hmoves (by rw [hlength]; decide)).1,
    (hsums (by rw [hlength]; decide)).2, hvisits 0 (by rw [hlength]; decide)⟩

end Session

end JsonExplorer
