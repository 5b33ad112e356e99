import JsonExplorer.Proofs.Outline.Rows

/-!
Matches that can be seen. A row of the outline is there once every container above it is open, and
a search reveals just those above its matches, so with what it reveals open each match has a row
(`exists_row_of_mem_executeWith`). Keys that make two nodes share a path do no harm here: the
argument follows the nodes, and a path opens all nodes that have it.
-/

namespace JsonExplorer

open Value (inductionOnChildren)

namespace Outline

variable {isOpen : String → Bool} {limit : Option Nat}

/-- A node has a row. -/
theorem row_mem_rowsAt (path : String) (depth : Nat) (v : Value) :
    row limit path depth v ∈ rowsAt isOpen limit path depth v := by
  rw [rowsAt_children]
  exact List.mem_cons_self

/-- Below an open node, the rows of its children are there. -/
theorem mem_rowsAt_of_child {path : String} {depth : Nat} {v : Value} {c : Step × Value} {r : Row}
    (hopen : isOpen path = true) (hc : c ∈ v.children)
    (hr : r ∈ rowsAt isOpen limit (Path.child path c.1) (depth + 1) c.2) :
    r ∈ rowsAt isOpen limit path depth v := by
  rw [rowsAt_children, if_pos hopen]
  exact List.mem_cons_of_mem _ (List.mem_flatMap.mpr ⟨c, hc, hr⟩)

end Outline

namespace Search

open Outline (Row)

variable {test isOpen : String → Bool} {limit : Option Nat}

theorem mem_here_iff {path p : String} {v : Value} :
    p ∈ here test path v ↔ p = path ∧ nodeMatches test (Path.name path) v = true := by
  unfold here
  split <;> simp_all

/-- A match in a subtree is a hit there. -/
theorem revealAt_fst_of_mem {path p : String} {v : Value} (hp : p ∈ matchesAt test path v) :
    (revealAt test path v).1 = true := by
  induction v using inductionOnChildren generalizing path with
  | node v ih =>
    rw [matchesAt_children, List.mem_append] at hp
    rw [revealAt_fst_children, Bool.or_eq_true, List.any_eq_true]
    rcases hp with hp | hp
    · exact Or.inl (mem_here_iff.mp hp).2
    · obtain ⟨c, hc, hp⟩ := List.mem_flatMap.mp hp
      exact Or.inr ⟨c, hc, ih c hc hp⟩

/-- With everything open that is revealed in a subtree, each match in it has a row. -/
theorem exists_row_of_mem_matchesAt {path p : String} {depth : Nat} {v : Value}
    (hopen : ∀ q ∈ (revealAt test path v).2, isOpen q = true) (hp : p ∈ matchesAt test path v) :
    ∃ r ∈ Outline.rowsAt isOpen limit path depth v, r.path = p := by
  induction v using inductionOnChildren generalizing path depth with
  | node v ih =>
    have hit := revealAt_fst_of_mem hp
    rw [matchesAt_children, List.mem_append] at hp
    rcases hp with hp | hp
    · rw [(mem_here_iff.mp hp).1]
      exact ⟨_, Outline.row_mem_rowsAt path depth v, rfl⟩
    · obtain ⟨c, hc, hp⟩ := List.mem_flatMap.mp hp
      -- the parent holds the child's hit, so it is revealed itself
      simp only [revealAt_snd_children test path v, hit, Value.isContainer_of_mem_children hc,
        Bool.and_self, ↓reduceIte, List.singleton_append, List.forall_mem_cons] at hopen
      obtain ⟨r, hr, hrp⟩ := ih c hc (fun q hq => hopen.2 q (List.mem_flatMap.mpr ⟨c, hc, hq⟩)) hp
      exact ⟨r, Outline.mem_rowsAt_of_child hopen.1 hc hr, hrp⟩

/-- With everything open that answering a request reveals, each of its matches has a row. -/
theorem exists_row_of_mem_executeWith (engine : Engine) {request : SearchRequest}
    {expanded : List String} (hopen : ∀ q ∈ (executeWith engine request).expand, q ∈ expanded)
    {p : String} (hp : p ∈ (executeWith engine request).paths) :
    ∃ r ∈ Outline.rows request.document expanded limit, r.path = p := by
  rw [expand_executeWith] at hopen
  have hp : p ∈ matchesWith engine request.query request.document := hp
  cases ht : request.query.testWith? engine with
  | none => simp [matchesWith, ht] at hp
  | some test =>
    simp only [matchesWith, revealsWith, ht, matchPaths, revealPaths, mem_distinct] at hp hopen
    exact exists_row_of_mem_matchesAt (fun q hq => by simpa using hopen q hq) hp

end Search

end JsonExplorer
