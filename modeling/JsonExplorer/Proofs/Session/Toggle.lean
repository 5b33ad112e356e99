import JsonExplorer.Proofs.Outline.Opening
import JsonExplorer.Proofs.Session.Traffic

/-!
Toggling a path. It changes the answer for that path among the ones opened by hand and for no other
(`mem_expanded_toggle`), and that is all the rows depend on (`visibleRows_congr`), whatever the
order in which paths were opened. So a container with a row unfolds or folds one block of rows,
nothing else moves any row, and toggles undo themselves and can be made in any order
(`toggle_moves_one_block`).
-/

namespace JsonExplorer.Session

open Outline (AgreeOff Unfolds rows_eq_of_agreeOff unfolds_of_agreeOff mem_rows_of_agreeOff)

variable {s t : Session} {p q : String}

theorem mem_expanded_toggle : q ∈ (s.toggle p).expanded ↔ (q = p ↔ q ∉ s.expanded) := by
  unfold toggle
  by_cases hp : p ∈ s.expanded
  · by_cases hq : q = p <;> simp [hp, hq]
  · by_cases hq : q = p <;> simp [hp, hq]

theorem isExpanded_iff : s.isExpanded q = true ↔ q ∈ s.expanded ++ s.autoExpanded := by
  simp [isExpanded]

/-- A path is open after a toggle as it was before, unless it is the one that is toggled. -/
theorem agreeOff_toggle (s : Session) (p : String) :
    AgreeOff p (s.expanded ++ s.autoExpanded)
      ((s.toggle p).expanded ++ (s.toggle p).autoExpanded) := by
  intro q hq
  have hauto : (s.toggle p).autoExpanded = s.autoExpanded := rfl
  simp [mem_expanded_toggle, hq, hauto]

/-- The rows depend on the document, the limit of previews and on what is open. -/
theorem visibleRows_congr (hvalue : s.value = t.value) (hlimit : s.previewLimit = t.previewLimit)
    (hopen : ∀ q, s.isExpanded q = t.isExpanded q) : s.visibleRows = t.visibleRows := by
  have hiff : ∀ q, q ∈ s.expanded ++ s.autoExpanded ↔ q ∈ t.expanded ++ t.autoExpanded := by
    intro q
    rw [← isExpanded_iff, ← isExpanded_iff, hopen]
  rw [visibleRows, visibleRows, hvalue, hlimit, Outline.rows_eq, Outline.rows_eq,
    Outline.reached_congr fun n _ _ => hiff _]

theorem isExpanded_congr (hexpanded : ∀ q, q ∈ s.expanded ↔ q ∈ t.expanded)
    (hauto : s.autoExpanded = t.autoExpanded) (q : String) : s.isExpanded q = t.isExpanded q := by
  rw [Bool.eq_iff_iff, isExpanded_iff, isExpanded_iff, List.mem_append, List.mem_append,
    hexpanded q, hauto]

theorem isExpanded_toggle_toggle (s : Session) (p q : String) :
    ((s.toggle p).toggle p).isExpanded q = s.isExpanded q := by
  apply isExpanded_congr
  · intro q
    simp only [mem_expanded_toggle]
    by_cases hq : q = p <;> simp [hq]
  · rfl

theorem isExpanded_toggle_comm (s : Session) (p p' q : String) :
    ((s.toggle p).toggle p').isExpanded q = ((s.toggle p').toggle p).isExpanded q := by
  apply isExpanded_congr
  · intro q
    simp only [mem_expanded_toggle]
    grind
  · rfl

/-- Toggling a path that has a row unfolds the row if the path is closed, and folds it if it has
been opened by hand. -/
theorem unfolds_toggle (distinct : s.value.KeysDistinct) (clean : s.value.KeysClean)
    (hauto : p ∉ s.autoExpanded) {r : Outline.Row} (hr : r ∈ s.visibleRows) (hp : r.path = p) :
    (p ∉ s.expanded → Unfolds s.value (some s.previewLimit) p s.visibleRows
      (s.toggle p).visibleRows) ∧
    (p ∈ s.expanded → Unfolds s.value (some s.previewLimit) p (s.toggle p).visibleRows
      s.visibleRows) := by
  have hagree := agreeOff_toggle s p
  constructor
  · intro hclosed
    exact unfolds_of_agreeOff distinct clean hagree (by simp [hclosed, hauto]) hr hp
  · intro hopen
    have hclosed : p ∉ (s.toggle p).expanded ++ (s.toggle p).autoExpanded := by
      have hnot : p ∉ (s.toggle p).expanded := by simp [mem_expanded_toggle, hopen]
      rw [List.mem_append]
      exact not_or.mpr ⟨hnot, hauto⟩
    exact unfolds_of_agreeOff distinct clean hagree.symm hclosed
      (mem_rows_of_agreeOff clean hagree hr hp) hp

/-- **Toggling moves one block of rows.** Take any state of a session. Where keys are clean, and the
path has not been opened by a search: if the path has a row and is closed, toggling it puts one
block of rows behind that row, those of nodes below it, and leaves all other rows as they are; if it
has been opened by hand, toggling it takes that block away. In any document, toggling changes no row
if the path has none, or has that of a leaf. Toggling a path twice leaves all rows as they were and
the same paths open, and so it makes no difference which of two paths is toggled first. -/
theorem toggle_moves_one_block (s : Session) (p : String) :
    (s.value.KeysDistinct → s.value.KeysClean → p ∉ s.autoExpanded →
      ∀ r ∈ s.visibleRows, r.path = p →
        (p ∉ s.expanded → Unfolds s.value (some s.previewLimit) p s.visibleRows
          (s.toggle p).visibleRows) ∧
        (p ∈ s.expanded → Unfolds s.value (some s.previewLimit) p (s.toggle p).visibleRows
          s.visibleRows)) ∧
    ((∀ r ∈ s.visibleRows, r.path = p → r.isLeaf = true) →
      (s.toggle p).visibleRows = s.visibleRows) ∧
    (((s.toggle p).toggle p).visibleRows = s.visibleRows ∧
      ∀ q, ((s.toggle p).toggle p).isExpanded q = s.isExpanded q) ∧
    ∀ p', ((s.toggle p).toggle p').visibleRows = ((s.toggle p').toggle p).visibleRows ∧
      ∀ q, ((s.toggle p).toggle p').isExpanded q = ((s.toggle p').toggle p).isExpanded q := by
  refine ⟨?_, ?_, ⟨?_, isExpanded_toggle_toggle s p⟩, fun p' =>
    ⟨?_, isExpanded_toggle_comm s p p'⟩⟩
  · intro distinct clean hauto r hr hp
    exact unfolds_toggle distinct clean hauto hr hp
  · exact fun hleaf => rows_eq_of_agreeOff (agreeOff_toggle s p) hleaf
  · exact visibleRows_congr rfl rfl (isExpanded_toggle_toggle s p)
  · exact visibleRows_congr rfl rfl (isExpanded_toggle_comm s p p')

/-- A list is opened while the object around it is still closed. -/
def remembered : List Event :=
  [.setDocument (.object [("a", .object [("b", .array [.boolean true])]), ("c", .null)])
      fun _ => ⟨.kept, true⟩,
    .toggle "Root",
    .toggle "Root.a.b"]

set_option maxRecDepth 20000 in
theorem toggle_moves_one_block_remembered :
    let s := run (fresh "Root" 120) remembered
    s.visibleRows.map (·.path) = ["Root", "Root.a", "Root.c"] ∧
      (s.toggle "Root.a").visibleRows.map (·.path) =
        ["Root", "Root.a", "Root.a.b", "Root.a.b[0]", "Root.c"] ∧
      Unfolds s.value (some 120) "Root.a" s.visibleRows (s.toggle "Root.a").visibleRows ∧
      Unfolds s.value (some 120) "Root" (s.toggle "Root").visibleRows s.visibleRows ∧
      (s.toggle "Root.a.b").visibleRows = s.visibleRows := by
  intro s
  have distinct : s.value.KeysDistinct := by
    show (Value.object _).KeysDistinct
    simp [Value.KeysDistinct, Value.ItemsKeysDistinct, Value.FieldsKeysDistinct, Entries.names]
  have clean : s.value.KeysClean := by decide +kernel
  have hrows : s.visibleRows = (Outline.reached (s.expanded ++ s.autoExpanded) s.value).map
      (Outline.nodeRow (some s.previewLimit)) := Outline.rows_eq _ _ _
  have hpaths : s.visibleRows.map (·.path) = ["Root", "Root.a", "Root.c"] := by
    rw [hrows]
    decide +kernel
  have hmem : ∀ p ∈ ["Root", "Root.a", "Root.c"], ∃ r ∈ s.visibleRows, r.path = p := by
    intro p hp
    rw [← hpaths] at hp
    exact List.mem_map.mp hp
  obtain ⟨r, hr, hrp⟩ := hmem "Root" (by simp)
  obtain ⟨r', hr', hrp'⟩ := hmem "Root.a" (by simp)
  refine ⟨hpaths, ?_, ?_, ?_, ?_⟩
  · rw [visibleRows, Outline.rows_eq]
    decide +kernel
  · exact ((toggle_moves_one_block s "Root.a").1 distinct clean (by decide +kernel) r' hr' hrp').1
      (by decide +kernel)
  · exact ((toggle_moves_one_block s "Root").1 distinct clean (by decide +kernel) r hr hrp).2
      (by decide +kernel)
  · refine (toggle_moves_one_block s "Root.a.b").2.1 fun r hr hp => ?_
    have hin : r.path ∈ ["Root", "Root.a", "Root.c"] := hpaths ▸ List.mem_map_of_mem hr
    rw [hp] at hin
    exact absurd hin (by decide)

end JsonExplorer.Session
