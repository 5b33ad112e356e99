import JsonExplorer.Outline
import JsonExplorer.Proofs.Search.Walks

/-!
Rows of an outline as a list of nodes. A document has one row for each node that is reached through
open containers, in the order of the nodes (`rows_eq`). So the rows depend on which containers are
open and on nothing else, opening more adds rows between those that are there, and with everything
open each node has its row (`rows_are_reached_nodes`). Keys that make two nodes share a path open
both at once and do no harm.
-/

namespace JsonExplorer.Outline

open Value (inductionOnChildren nodesAt_eq)
open JsonExplorer.Path (ofSteps ofSteps_concat)

/-! ## Children -/

section

variable (isOpen : String → Bool) (limit : Option Nat)

theorem itemRows_eq (path : String) (depth i : Nat) (items : List Value) :
    itemRows isOpen limit path depth i items = (items.zipIdx i).flatMap fun x =>
      rowsAt isOpen limit (Path.childIndex path x.2) (depth + 1) x.1 := by
  induction items generalizing i with
  | nil => rfl
  | cons v rest ih => simp [itemRows, ih]

theorem fieldRows_eq (path : String) (depth : Nat) (fields : List (String × Value)) :
    fieldRows isOpen limit path depth fields = fields.flatMap fun f =>
      rowsAt isOpen limit (Path.childKey path f.1) (depth + 1) f.2 := by
  induction fields with
  | nil => rfl
  | cons f rest ih => simp [fieldRows, ih]

theorem rowsAt_children (path : String) (depth : Nat) (v : Value) :
    rowsAt isOpen limit path depth v = row limit path depth v ::
      if isOpen path then v.children.flatMap fun c =>
        rowsAt isOpen limit (Path.child path c.1) (depth + 1) c.2
      else [] := by
  cases v <;> simp [rowsAt, Value.children, itemRows_eq, fieldRows_eq, List.flatMap_map, Path.child]

end

variable {isOpen : String → Bool} {limit : Option Nat} {document : Value}

/-! ## Nodes -/

/-- Every node on the way, from `depth` steps on and short of the last, is open. -/
def OpenFrom (isOpen : String → Bool) (depth : Nat) (steps : List Step) : Prop :=
  ∀ i < steps.length, depth ≤ i → isOpen (ofSteps (steps.take i)) = true

instance (isOpen : String → Bool) (depth : Nat) (steps : List Step) :
    Decidable (OpenFrom isOpen depth steps) :=
  inferInstanceAs (Decidable (∀ i < steps.length, depth ≤ i → _))

def nodeRow (limit : Option Nat) (n : List Step × Value) : Row :=
  { name := Path.name (ofSteps n.1)
    path := ofSteps n.1
    depth := n.1.length
    isLeaf := !n.2.isContainer
    kind := n.2.kind
    preview := preview limit n.2 }

theorem openFrom_self (steps : List Step) : OpenFrom isOpen steps.length steps := by
  intro i hi hd
  omega

/-- A node below `trail` is reached from there if `trail` is open and it is reached from the child
above it. -/
theorem openFrom_iff {trail steps : List Step} {s : Step} (h : trail ++ [s] <+: steps) :
    OpenFrom isOpen trail.length steps ↔
      isOpen (ofSteps trail) = true ∧ OpenFrom isOpen (trail ++ [s]).length steps := by
  obtain ⟨more, rfl⟩ := h
  have htake : (trail ++ [s] ++ more).take trail.length = trail := by simp
  constructor
  · intro hopen
    refine ⟨?_, fun i hi hd => hopen i hi ?_⟩
    · have hhere := hopen trail.length (by simp) (Nat.le_refl _)
      rwa [htake] at hhere
    · simp only [List.length_append, List.length_singleton] at hd
      omega
  · rintro ⟨hhere, hopen⟩ i hi hd
    by_cases he : i = trail.length
    · rw [he, htake]
      exact hhere
    · exact hopen i hi (by simp; omega)

/-- The rows at a node are those of the nodes below it that are reached from it. -/
theorem rowsAt_eq (trail : List Step) (v : Value) :
    rowsAt isOpen limit (ofSteps trail) trail.length v =
      ((Value.nodesAt trail v).filter fun n => OpenFrom isOpen trail.length n.1).map
        (nodeRow limit) := by
  induction v using inductionOnChildren generalizing trail with
  | node v ih =>
    have hbelow : ∀ c ∈ v.children,
        rowsAt isOpen limit (Path.child (ofSteps trail) c.1) (trail.length + 1) c.2 =
          ((Value.nodesAt (trail ++ [c.1]) c.2).filter fun n =>
            OpenFrom isOpen (trail ++ [c.1]).length n.1).map (nodeRow limit) := by
      intro c hc
      rw [← ih c hc (trail ++ [c.1]), ofSteps_concat, List.length_append, List.length_singleton]
    have hreach : ∀ c ∈ v.children, ∀ n ∈ Value.nodesAt (trail ++ [c.1]) c.2,
        decide (OpenFrom isOpen trail.length n.1) = (isOpen (ofSteps trail) &&
          decide (OpenFrom isOpen (trail ++ [c.1]).length n.1)) := by
      intro c hc n hn
      rw [Bool.eq_iff_iff]
      simp [openFrom_iff (Value.prefix_of_mem_nodesAt hn)]
    rw [rowsAt_children, nodesAt_eq, List.filter_cons, List.filter_flatMap,
      decide_eq_true (openFrom_self trail), if_pos rfl, List.map_cons, List.map_flatMap]
    refine congrArg (List.cons _) ?_
    split
    · rename_i hopen
      refine List.flatMap_congr fun c hc => ?_
      rw [hbelow c hc, List.filter_congr (hreach c hc)]
      simp [hopen]
    · rename_i hclosed
      refine (List.flatMap_eq_nil_iff.mpr fun c hc => ?_).symm
      rw [List.filter_congr (hreach c hc)]
      simp [hclosed]

/-- The nodes all of whose proper ancestors have their path in a set. -/
def reached (expanded : List String) (document : Value) : List (List Step × Value) :=
  document.nodes.filter fun n => ∀ i < n.1.length, ofSteps (n.1.take i) ∈ expanded

theorem rows_eq (document : Value) (expanded : List String) (limit : Option Nat) :
    rows document expanded limit = (reached expanded document).map (nodeRow limit) := by
  let isOpen : String → Bool := fun path => (Std.HashSet.ofList expanded).contains path
  have hrows : rows document expanded limit =
      (document.nodes.filter fun n => OpenFrom isOpen 0 n.1).map (nodeRow limit) :=
    rowsAt_eq [] document
  refine hrows.trans (congrArg _ (List.filter_congr fun n _ => ?_))
  simp [OpenFrom, isOpen]

/-- What is reached depends on which containers are open, and on nothing else. -/
theorem reached_congr {opened opened' : List String}
    (h : ∀ n ∈ document.nodes, n.2.isContainer = true →
      (ofSteps n.1 ∈ opened ↔ ofSteps n.1 ∈ opened')) :
    reached opened document = reached opened' document := by
  refine List.filter_congr fun n hn => decide_eq_decide.mpr ?_
  refine forall_congr' fun i => forall_congr' fun hi => ?_
  obtain ⟨w, hw, hcontainer⟩ := Value.exists_container_above hn (Nat.zero_le i) hi
  exact h _ hw hcontainer

/-- Opening more hides nothing and changes no order. -/
theorem reached_sublist {opened opened' : List String} (h : ∀ p ∈ opened, p ∈ opened') :
    (reached opened document).Sublist (reached opened' document) := by
  refine List.monotone_filter_right _ fun n hn => ?_
  rw [decide_eq_true_iff] at hn ⊢
  exact fun i hi => h _ (hn i hi)

/-- With all containers open, every node is reached. -/
theorem reached_expandablePaths (document : Value) :
    reached (Search.expandablePaths document) document = document.nodes := by
  refine List.filter_eq_self.mpr fun n hn => decide_eq_true fun i hi => ?_
  obtain ⟨w, hw, hcontainer⟩ := Value.exists_container_above hn (Nat.zero_le i) hi
  exact Search.mem_expandablePaths_iff.mpr ⟨_, hw, hcontainer, rfl⟩

/-- **The rows are the nodes that are reached.** There is one row for each node all of whose proper
ancestors have their path in the set, in the order of the nodes, with its path, its depth and
whether it is a leaf. Two sets with the same paths of containers give the same rows, a larger set
gives the rows of the smaller one among others, and the paths of all containers give every node a
row. -/
theorem rows_are_reached_nodes :
    (∀ (document : Value) (expanded : List String) (limit : Option Nat),
      rows document expanded limit = (reached expanded document).map (nodeRow limit)) ∧
    (∀ (document : Value) (expanded expanded' : List String) (limit : Option Nat),
      (∀ n ∈ document.nodes, n.2.isContainer = true →
        (ofSteps n.1 ∈ expanded ↔ ofSteps n.1 ∈ expanded')) →
      rows document expanded limit = rows document expanded' limit) ∧
    (∀ (document : Value) (expanded expanded' : List String) (limit : Option Nat),
      (∀ p ∈ expanded, p ∈ expanded') →
      (rows document expanded limit).Sublist (rows document expanded' limit)) ∧
    ∀ (document : Value) (limit : Option Nat),
      rows document (Search.expandablePaths document) limit =
        document.nodes.map (nodeRow limit) := by
  refine ⟨rows_eq, fun document expanded expanded' limit h => ?_,
    fun document expanded expanded' limit h => ?_, fun document limit => ?_⟩
  · rw [rows_eq, rows_eq, reached_congr h]
  · rw [rows_eq, rows_eq]
    exact (reached_sublist h).map _
  · rw [rows_eq, reached_expandablePaths]

/-- A field whose key reads as two steps beside a field with those two steps. -/
def lookalikes : Value :=
  .object
    [("a", .object [("b", .array [.null])]),
      ("a.b", .array [.boolean true, .object []])]

/-- The shared path opens the outer of its two nodes, and the inner one once its parent is open.
Paths of leaves and of nothing make no difference. -/
theorem rows_are_reached_nodes_lookalikes :
    (∀ n ∈ lookalikes.nodes, n.2.isContainer = true →
      (ofSteps n.1 ∈ ["Root", "Root.a.b"] ↔
        ofSteps n.1 ∈ ["Root.a.b[0]", "nowhere", "Root.a.b", "Root"])) ∧
      rows lookalikes ["Root", "Root.a.b"] none =
        rows lookalikes ["Root.a.b[0]", "nowhere", "Root.a.b", "Root"] none ∧
      (rows lookalikes ["Root", "Root.a.b"] none).map (fun r => (r.path, r.depth)) =
        [("Root", 0), ("Root.a", 1), ("Root.a.b", 1), ("Root.a.b[0]", 2), ("Root.a.b[1]", 2)] ∧
      (∀ p ∈ ["Root", "Root.a.b"], p ∈ ["Root", "Root.a.b", "Root.a"]) ∧
      (rows lookalikes ["Root", "Root.a.b"] none).Sublist
        (rows lookalikes ["Root", "Root.a.b", "Root.a"] none) := by
  obtain ⟨hrows, hcongr, hmore, _⟩ := rows_are_reached_nodes
  have hsame : ∀ n ∈ lookalikes.nodes, n.2.isContainer = true →
      (ofSteps n.1 ∈ ["Root", "Root.a.b"] ↔
        ofSteps n.1 ∈ ["Root.a.b[0]", "nowhere", "Root.a.b", "Root"]) := by decide +kernel
  have hsub : ∀ p ∈ ["Root", "Root.a.b"], p ∈ ["Root", "Root.a.b", "Root.a"] := by decide
  refine ⟨hsame, hcongr _ _ _ none hsame, ?_, hsub, hmore _ _ _ none hsub⟩
  rw [hrows]
  decide +kernel

end JsonExplorer.Outline
