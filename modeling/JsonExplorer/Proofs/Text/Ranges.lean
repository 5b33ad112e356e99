import JsonExplorer.Text.Category

/-!
What a table is looked up for. If the rows are in order, so that each ends before the next one
starts, halving the window finds the row in which a number lies (`lastStart?_eq_some`). Whether
rows are in order is checked row by row (`inOrder`); those of the general category are.
-/

namespace JsonExplorer.Text

variable {α : Type} {start last : α → Nat} {rows : Array α} {n k : Nat}

/-- Each row ends no earlier than it starts, and before the next one starts. -/
def inOrder (start last : α → Nat) : List α → Bool
  | [] | [_] => true
  | r :: r' :: rest =>
    Nat.ble (start r) (last r) && Nat.blt (last r) (start r') && inOrder start last (r' :: rest)

theorem inOrder_cons_cons {r r' : α} {rest : List α} :
    inOrder start last (r :: r' :: rest) = true ↔
      start r ≤ last r ∧ last r < start r' ∧ inOrder start last (r' :: rest) = true := by
  simp [inOrder, Nat.blt_eq, and_assoc]

/-- Rows in order are in order with all rows behind them. -/
theorem pairwise_of_inOrder {rows : List α} (h : inOrder start last rows = true) :
    rows.Pairwise fun r r' => start r ≤ last r ∧ last r < start r' := by
  induction rows with
  | nil => exact .nil
  | cons r rest ih =>
    cases rest with
    | nil => exact List.pairwise_singleton _ _
    | cons r' rest =>
      obtain ⟨hr, hnext, hrest⟩ := inOrder_cons_cons.mp h
      have hpairs := ih hrest
      refine List.pairwise_cons.mpr ⟨fun x hx => ⟨hr, ?_⟩, hpairs⟩
      rcases List.mem_cons.mp hx with rfl | hx
      · exact hnext
      · have := (List.pairwise_cons.mp hpairs).1 x hx
        omega

/-- The window keeps the row that is looked for, and is halved until nothing else is left in it. -/
theorem lastStartIn_eq (hk : ∀ i row, rows[i]? = some row → (start row ≤ n ↔ i ≤ k))
    {fuel lo hi : Nat} (hlo : lo ≤ k) (hhi : k < hi) (hsize : hi ≤ rows.size)
    (hfuel : hi - lo ≤ Nat.pow 2 fuel) : lastStartIn start rows n fuel lo hi = k := by
  induction fuel generalizing lo hi with
  | zero =>
    rw [lastStartIn]
    have hone : Nat.pow 2 0 = 1 := rfl
    omega
  | succ fuel ih =>
    rw [lastStartIn]
    split
    · omega
    · have hpow : Nat.pow 2 (fuel + 1) = Nat.pow 2 fuel * 2 := rfl
      have hmid : (lo + hi) / 2 < rows.size := by omega
      have hrow : rows[(lo + hi) / 2]? = some rows[(lo + hi) / 2] := by simp [hmid]
      simp only [hrow]
      split
      · rename_i hstart
        exact ih ((hk _ _ hrow).mp hstart) hhi hsize (by omega)
      · rename_i hstart
        have := mt (hk _ _ hrow).mpr hstart
        exact ih hlo (by omega) (by omega) (by omega)

/-- The row in which a number lies is found. -/
theorem lastStart?_eq_some (hrows : inOrder start last rows.toList = true)
    (hsize : rows.size ≤ Nat.pow 2 32) {row : α} (hrow : row ∈ rows.toList) (hstart : start row ≤ n)
    (hlast : n ≤ last row) : lastStart? start rows n = some row := by
  have hpairs := List.pairwise_iff_getElem.mp (pairwise_of_inOrder hrows)
  obtain ⟨k, hk, rfl⟩ := List.getElem_of_mem hrow
  have hstarts : ∀ i row, rows[i]? = some row → (start row ≤ n ↔ i ≤ k) := by
    intro i row hrow
    obtain ⟨hi, rfl⟩ := List.getElem?_eq_some_iff.mp (Array.getElem?_toList ▸ hrow)
    rcases Nat.lt_trichotomy i k with hlt | rfl | hlt
    · have := hpairs i k hi hk hlt
      omega
    · omega
    · have := hpairs k i hk hi hlt
      omega
  have hfound : lastStartIn start rows n 32 0 rows.size = k :=
    lastStartIn_eq hstarts (Nat.zero_le _) hk (Nat.le_refl _) (by simpa using hsize)
  rw [lastStart?, hfound]
  simp

/-! ## Tables in order -/

theorem lastStart?_runs {row : Nat × Nat × Category} (hrow : row ∈ Category.runs.toList)
    (hfirst : row.1 ≤ n) (hlast : n ≤ row.2.1) :
    lastStart? (·.1) Category.runs n = some row := by
  have hinOrder : inOrder (·.1) (·.2.1) Category.runs.toList = true := by decide +kernel
  have hsize : Category.runs.size ≤ Nat.pow 2 32 := by decide +kernel
  exact lastStart?_eq_some hinOrder hsize hrow hfirst hlast

theorem lastStart?_alternatingRuns {range : Nat × Nat}
    (hrange : range ∈ Category.alternatingRuns.toList) (hfirst : range.1 ≤ n)
    (hlast : n ≤ range.2) : lastStart? (·.1) Category.alternatingRuns n = some range := by
  have hinOrder : inOrder (·.1) (·.2) Category.alternatingRuns.toList = true := by decide +kernel
  exact lastStart?_eq_some hinOrder (by decide +kernel) hrange hfirst hlast

theorem inRanges_otherAlphabetic {range : Nat × Nat} (hrange : range ∈ otherAlphabetic.toList)
    (hfirst : range.1 ≤ n) (hlast : n ≤ range.2) : inRanges otherAlphabetic n = true := by
  have hinOrder : inOrder (·.1) (·.2) otherAlphabetic.toList = true := by decide +kernel
  have hfound : lastStart? (·.1) otherAlphabetic n = some range :=
    lastStart?_eq_some hinOrder (by decide +kernel) hrange hfirst hlast
  simp [inRanges, hfound, hfirst, hlast]

end JsonExplorer.Text
