import JsonExplorer.Proofs.Outline.Pages
import JsonExplorer.Proofs.Outline.Rows
import JsonExplorer.Proofs.Path.Names
import Mathlib.Data.List.Forall2
import Mathlib.Data.List.TakeWhile

/-!
Rows of an outline beside pages of children. Behind the row of a node stand the rows of the nodes
below it that are reached, up to the next row that is no deeper (`exists_block`). The shallowest of
them are the rows of the node's children, all of them if the node is open and none if it is closed
(`childRows_eq`). A row is called by the end of its path, and an entry of a page by the step to it;
where keys are clean these are the same, and so rows and pages show the same children
(`rows_agree_with_pages`).
-/

namespace JsonExplorer.Outline

open Value (inductionOnChildren nodesAt_eq)
open JsonExplorer.Path (ofSteps ofSteps_concat)

/-! ## Blocks -/

theorem exists_of_flatMap_eq {α β : Type} {f : α → List β} {l : List α} {before after : List β}
    {b : β} (h : l.flatMap f = before ++ b :: after) :
    ∃ first a last front back, l = first ++ a :: last ∧ f a = front ++ b :: back ∧
      after = back ++ last.flatMap f := by
  induction l generalizing before with
  | nil => simp at h
  | cons a rest ih =>
    have hlater : ∀ before', rest.flatMap f = before' ++ b :: after →
        ∃ first a' last front back, a :: rest = first ++ a' :: last ∧ f a' = front ++ b :: back ∧
          after = back ++ last.flatMap f := by
      intro before' h'
      obtain ⟨first, a', last, front, back, rfl, ha, hafter⟩ := ih h'
      exact ⟨a :: first, a', last, front, back, rfl, ha, hafter⟩
    rw [List.flatMap_cons] at h
    rcases List.append_eq_append_iff.mp h with ⟨more, -, hmore⟩ | ⟨more, ha, hmore⟩
    · exact hlater more hmore
    · cases more with
      | nil => exact hlater [] hmore.symm
      | cons c back =>
        obtain ⟨rfl, hback⟩ := List.cons.inj hmore
        exact ⟨[], a, rest, before, back, rfl, ha, hback⟩

theorem takeWhile_append_of_stop {α : Type} {p : α → Bool} {rest : List α}
    (h : rest.takeWhile p = []) (l : List α) : (l ++ rest).takeWhile p = l.takeWhile p := by
  induction l with
  | nil => exact h
  | cons a l ih => simp only [List.cons_append, List.takeWhile_cons, ih]

variable {isOpen : String → Bool} {limit : Option Nat} {document : Value}

/-- No row of a subtree is less deep than the one of its root. -/
theorem le_depth_of_mem_rowsAt {trail : List Step} {v : Value} {x : Row}
    (hx : x ∈ rowsAt isOpen limit (ofSteps trail) trail.length v) : trail.length ≤ x.depth := by
  rw [rowsAt_eq] at hx
  obtain ⟨n, hn, rfl⟩ := List.mem_map.mp hx
  exact (Value.prefix_of_mem_nodesAt (List.mem_filter.mp hn).1).length_le

def rowsBelow (isOpen : String → Bool) (limit : Option Nat) (trail : List Step)
    (children : List (Step × Value)) : List Row :=
  children.flatMap fun c =>
    rowsAt isOpen limit (ofSteps (trail ++ [c.1])) (trail ++ [c.1]).length c.2

theorem rowsAt_eq_cons (trail : List Step) (v : Value) :
    rowsAt isOpen limit (ofSteps trail) trail.length v =
      row limit (ofSteps trail) trail.length v ::
        if isOpen (ofSteps trail) then rowsBelow isOpen limit trail v.children else [] := by
  rw [rowsAt_children]
  simp only [rowsBelow, ofSteps_concat, List.length_append, List.length_singleton]

theorem lt_depth_of_mem_rowsBelow {trail : List Step} {children : List (Step × Value)} {x : Row}
    (hx : x ∈ rowsBelow isOpen limit trail children) : trail.length < x.depth := by
  obtain ⟨c, -, hx⟩ := List.mem_flatMap.mp hx
  have hle := le_depth_of_mem_rowsAt hx
  simp only [List.length_append, List.length_singleton] at hle
  omega

/-- The rows of children begin with a row one step down. -/
theorem takeWhile_rowsBelow (trail : List Step) (children : List (Step × Value)) {depth : Nat}
    (h : trail.length < depth) :
    (rowsBelow isOpen limit trail children).takeWhile (depth < ·.depth) = [] := by
  cases children with
  | nil => rfl
  | cons c rest =>
    have hstop : ¬ depth < (trail ++ [c.1]).length := by
      simp only [List.length_append, List.length_singleton]
      omega
    rw [rowsBelow, List.flatMap_cons, rowsAt_eq_cons, List.cons_append,
      List.takeWhile_cons_of_neg (by simpa [row] using hstop)]

/-- **Blocks.** Behind the row of a node stand the rows of its subtree, up to the next row that is
no deeper. -/
theorem exists_block (trail : List Step) {v : Value} {before after : List Row} {r : Row}
    (h : rowsAt isOpen limit (ofSteps trail) trail.length v = before ++ r :: after) :
    ∃ n ∈ Value.nodesAt trail v, rowsAt isOpen limit (ofSteps n.1) n.1.length n.2 =
      r :: after.takeWhile (r.depth < ·.depth) := by
  induction v using inductionOnChildren generalizing trail before after with
  | node v ih =>
    have hrows := h
    rw [rowsAt_eq_cons] at h
    cases before with
    | nil =>
      -- all that follows is below the root of the subtree
      obtain ⟨hr, hafter⟩ := List.cons.inj h
      have hdeeper : ∀ x ∈ after, (decide (r.depth < x.depth)) = true := by
        intro x hx
        rw [← hafter] at hx
        split at hx
        · rw [← hr]
          exact decide_eq_true (lt_depth_of_mem_rowsBelow hx)
        · simp at hx
      refine ⟨(trail, v), ?_, ?_⟩
      · rw [nodesAt_eq]
        exact List.mem_cons_self
      · rw [List.takeWhile_eq_self_iff.mpr hdeeper]
        exact hrows
    | cons first before =>
      obtain ⟨-, hbelow⟩ := List.cons.inj h
      split at hbelow
      · obtain ⟨earlier, c, later, front, back, hchildren, hc, rfl⟩ := exists_of_flatMap_eq hbelow
        have hmem : c ∈ v.children := by
          rw [hchildren]
          exact List.mem_append_right _ List.mem_cons_self
        have hdepth : trail.length < r.depth := by
          have hin : r ∈ front ++ r :: back := List.mem_append_right _ List.mem_cons_self
          rw [← hc] at hin
          have hle := le_depth_of_mem_rowsAt hin
          simp only [List.length_append, List.length_singleton] at hle
          omega
        obtain ⟨n, hn, hblock⟩ := ih c hmem _ hc
        refine ⟨n, ?_, ?_⟩
        · rw [nodesAt_eq]
          exact List.mem_cons_of_mem _ (List.mem_flatMap.mpr ⟨c, hmem, hn⟩)
        · have hstop : (rowsBelow isOpen limit trail later).takeWhile (r.depth < ·.depth) = [] :=
            takeWhile_rowsBelow trail later hdepth
          rw [hblock]
          exact congrArg _ (takeWhile_append_of_stop hstop back).symm
      · simp at hbelow

/-! ## Children -/

/-- Of the rows that follow `r`, those one step deeper, up to the next row that is no deeper than
`r` itself. -/
def childRows (r : Row) (following : List Row) : List Row :=
  (following.takeWhile (r.depth < ·.depth)).filter (·.depth = r.depth + 1)

/-- Of the rows of a subtree only the first is as shallow as its root. -/
theorem filter_depth_rowsAt (trail : List Step) (v : Value) :
    (rowsAt isOpen limit (ofSteps trail) trail.length v).filter (·.depth = trail.length) =
      [row limit (ofSteps trail) trail.length v] := by
  have hnone : ∀ x ∈ if isOpen (ofSteps trail) then rowsBelow isOpen limit trail v.children else [],
      ¬ decide (x.depth = trail.length) = true := by
    intro x hx
    split at hx
    · have := lt_depth_of_mem_rowsBelow hx
      simp only [decide_eq_true_eq]
      omega
    · simp at hx
  rw [rowsAt_eq_cons, List.filter_cons_of_pos (by simp [row]), List.filter_eq_nil_iff.mpr hnone]

theorem filter_depth_rowsBelow (trail : List Step) (children : List (Step × Value)) :
    (rowsBelow isOpen limit trail children).filter (·.depth = trail.length + 1) =
      children.map fun c => row limit (ofSteps (trail ++ [c.1])) (trail.length + 1) c.2 := by
  have hlength : ∀ c : Step × Value, (trail ++ [c.1]).length = trail.length + 1 := by simp
  rw [rowsBelow, List.filter_flatMap, List.map_eq_flatMap]
  refine List.flatMap_congr fun c _ => ?_
  rw [← hlength c]
  exact filter_depth_rowsAt (trail ++ [c.1]) c.2

/-- The rows of the children follow the row of an open node, and none that of a closed one. -/
theorem childRows_eq {trail : List Step} {v : Value} {r : Row} {following : List Row}
    (h : rowsAt isOpen limit (ofSteps trail) trail.length v =
      r :: following.takeWhile (r.depth < ·.depth)) :
    childRows r following =
      if isOpen (ofSteps trail) then
        v.children.map fun c => row limit (ofSteps (trail ++ [c.1])) (trail.length + 1) c.2
      else [] := by
  rw [rowsAt_eq_cons] at h
  obtain ⟨rfl, hbelow⟩ := List.cons.inj h
  rw [childRows, ← hbelow]
  split
  · exact filter_depth_rowsBelow trail v.children
  · rfl

/-! ## Pages -/

/-- A row and an entry of a page show the same child. -/
structure Row.Shows (r : Row) (c : Child) : Prop where
  path : r.path = c.path
  name : r.name = c.key
  kind : r.kind = c.kind
  preview : r.preview = c.preview

/-- The row of a child and its entry on a page of its parent agree if the steps to it are clean. -/
theorem shows_child {trail : List Step} {c : Step × Value} (hclean : ∀ s ∈ trail ++ [c.1], s.Clean)
    (depth : Nat) :
    (row limit (ofSteps (trail ++ [c.1])) depth c.2).Shows (child limit (ofSteps trail) c) where
  path := ofSteps_concat trail c.1
  name := by
    show Path.name (ofSteps (trail ++ [c.1])) = Step.label c.1
    rw [Path.name_ofSteps hclean, Path.ownName, List.getLast?_concat]
  kind := rfl
  preview := rfl

/-- **Rows and pages show the same children.** Take a row of a container. Its path leads to a node,
and a page of all its children can be listed there. If the path is open, the rows one step deeper,
up to the next row that is no deeper than the first, show the children on the page one by one, in
the order of the page; if it is closed there are no such rows. -/
theorem rows_agree_with_pages (document : Value) (distinct : document.KeysDistinct)
    (clean : document.KeysClean) (short : document.ArraysShort) (expanded : List String)
    (limit : Option Nat) (before following : List Row) (r : Row)
    (split : rows document expanded limit = before ++ r :: following)
    (container : r.isLeaf = false) :
    ∃ node listed, Path.resolve document r.path = some node ∧ node.isContainer = true ∧
      page? document r.path 0 node.childCount limit = some listed ∧
      listed.length = node.childCount ∧
      (r.path ∈ expanded → List.Forall₂ Row.Shows (childRows r following) listed) ∧
      (r.path ∉ expanded → childRows r following = []) := by
  obtain ⟨⟨steps, node⟩, hnode, hblock⟩ := exists_block [] split
  have hget : document.get? steps = some node := (Value.mem_nodes_iff distinct).mp hnode
  have hr : r = row limit (ofSteps steps) steps.length node := by
    rw [rowsAt_eq_cons] at hblock
    exact (List.cons.inj hblock).1.symm
  have hpath : r.path = ofSteps steps := by rw [hr]; rfl
  have hresolve : Path.resolve document r.path = some node := by
    rw [hpath, Path.resolve_ofSteps document (Path.clean_of_get? distinct clean hget)
      fun i hi => Path.index_lt_of_get? distinct short hget hi]
    exact hget
  have hcontainer : node.isContainer = true := by
    rw [hr] at container
    simpa [row] using container
  have hlisted : page? document r.path 0 node.childCount limit =
      some (node.children.map (child limit r.path)) := by
    rw [page?_eq hresolve, List.drop_zero, List.take_of_length_le (by simp [Value.length_children])]
  have hchildren := childRows_eq hblock
  simp only [Std.HashSet.contains_ofList, List.contains_iff_mem] at hchildren
  refine ⟨node, _, hresolve, hcontainer, hlisted, by simp [Value.length_children], ?_, ?_⟩
  · intro hopen
    rw [hpath] at hopen ⊢
    rw [hchildren, if_pos hopen, List.forall₂_map_left_iff, List.forall₂_map_right_iff,
      List.forall₂_same]
    intro c hc
    exact shows_child (clean _ (Value.child_mem_nodesAt hnode hc)) _
  · intro hclosed
    rw [hpath] at hclosed
    rw [hchildren, if_neg hclosed]

/-- An open list under an empty key, with an open object in it whose only field looks like the end
of an index. A closed list follows under a key that opens a number. -/
theorem rows_agree_with_pages_brackets :
    let opened := ["Root", "Root.", "Root.[1]"]
    let r := row none "Root." 1 (.array [.array [], .object [("]", .null)]])
    ∃ following,
      rows Path.brackets opened none = [row none "Root" 0 Path.brackets] ++ r :: following ∧
      following.map (fun x => (x.path, x.depth)) = [("Root.[0]", 2), ("Root.[1]", 2),
        ("Root.[1].]", 3), ("Root.[1", 1), ("Root.a[b]", 1)] ∧
      ∃ listed, page? Path.brackets "Root." 0 2 none = some listed ∧
        List.Forall₂ Row.Shows (childRows r following) listed := by
  intro opened r
  have distinct : Path.brackets.KeysDistinct := by
    simp [Path.brackets, Value.KeysDistinct, Value.ItemsKeysDistinct, Value.FieldsKeysDistinct,
      Entries.names]
  have clean : Path.brackets.KeysClean := by decide +kernel
  have short : Path.brackets.ArraysShort := by decide +kernel
  have split : rows Path.brackets opened none = [row none "Root" 0 Path.brackets] ++ r ::
      (rows Path.brackets opened none).drop 2 := by
    rw [rows_eq]
    decide +kernel
  refine ⟨_, split, ?_, ?_⟩
  · rw [rows_eq]
    decide +kernel
  · obtain ⟨node, listed, hnode, -, hlisted, -, hopen, -⟩ := rows_agree_with_pages Path.brackets
      distinct clean short opened none _ _ r split rfl
    have hsteps : Path.steps? r.path = some [.key ""] := by decide +kernel
    have hitems : Path.resolve Path.brackets r.path =
        some (.array [.array [], .object [("]", .null)]]) := by
      rw [Path.resolve, hsteps]
      rfl
    obtain rfl := Option.some.inj (hnode.symm.trans hitems)
    exact ⟨listed, hlisted, hopen (by decide)⟩

end JsonExplorer.Outline
