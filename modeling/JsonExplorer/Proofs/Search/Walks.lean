import JsonExplorer.Proofs.Path.Steps
import JsonExplorer.Proofs.Value.Nodes
import JsonExplorer.Search

/-!
The walks of a search as lists of nodes. Which paths can be opened, which match and which are
revealed is said here of the nodes of a document in their order: the containers
(`containersAt_eq`), the nodes that match (`matchesAt_eq`), and the containers with a match at or
below them (`revealAt_snd_eq`). What a query finds is stated for any engine that reads patterns;
the searches that run are those of one engine (`execute_eq`).
-/

namespace JsonExplorer.Search

open Value (inductionOnChildren nodesAt_eq)
open JsonExplorer.Path (ofSteps ofSteps_concat)

/-! ## Children -/

theorem itemContainers_eq (path : String) (i : Nat) (items : List Value) :
    itemContainers path i items =
      (items.zipIdx i).flatMap fun x => containersAt (Path.childIndex path x.2) x.1 := by
  induction items generalizing i with
  | nil => rfl
  | cons v rest ih => simp [itemContainers, ih]

theorem fieldContainers_eq (path : String) (fields : List (String × Value)) :
    fieldContainers path fields =
      fields.flatMap fun f => containersAt (Path.childKey path f.1) f.2 := by
  induction fields with
  | nil => rfl
  | cons f rest ih => simp [fieldContainers, ih]

theorem containersAt_children (path : String) (v : Value) :
    containersAt path v = (if v.isContainer then [path] else []) ++
      v.children.flatMap fun c => containersAt (Path.child path c.1) c.2 := by
  cases v <;> simp [containersAt, Value.children, Value.isContainer, Value.kind, Kind.isContainer,
    itemContainers_eq, fieldContainers_eq, List.flatMap_map, Path.child]

theorem itemMatches_eq (test : String → Bool) (path : String) (i : Nat) (items : List Value) :
    itemMatches test path i items =
      (items.zipIdx i).flatMap fun x => matchesAt test (Path.childIndex path x.2) x.1 := by
  induction items generalizing i with
  | nil => rfl
  | cons v rest ih => simp [itemMatches, ih]

theorem fieldMatches_eq (test : String → Bool) (path : String) (fields : List (String × Value)) :
    fieldMatches test path fields =
      fields.flatMap fun f => matchesAt test (Path.childKey path f.1) f.2 := by
  induction fields with
  | nil => rfl
  | cons f rest ih => simp [fieldMatches, ih]

theorem matchesAt_children (test : String → Bool) (path : String) (v : Value) :
    matchesAt test path v = here test path v ++
      v.children.flatMap fun c => matchesAt test (Path.child path c.1) c.2 := by
  cases v <;> simp [matchesAt, Value.children, itemMatches_eq, fieldMatches_eq, List.flatMap_map,
    Path.child]

theorem itemReveals_eq (test : String → Bool) (path : String) (i : Nat) (items : List Value) :
    itemReveals test path i items =
      ((items.zipIdx i).any fun x => (revealAt test (Path.childIndex path x.2) x.1).1,
        (items.zipIdx i).flatMap fun x => (revealAt test (Path.childIndex path x.2) x.1).2) := by
  induction items generalizing i with
  | nil => rfl
  | cons v rest ih => simp [itemReveals, join, ih]

theorem fieldReveals_eq (test : String → Bool) (path : String) (fields : List (String × Value)) :
    fieldReveals test path fields =
      (fields.any fun f => (revealAt test (Path.childKey path f.1) f.2).1,
        fields.flatMap fun f => (revealAt test (Path.childKey path f.1) f.2).2) := by
  induction fields with
  | nil => rfl
  | cons f rest ih => simp [fieldReveals, join, ih]

/-- There is a hit at a node that matches or has a child with a hit. -/
theorem revealAt_fst_children (test : String → Bool) (path : String) (v : Value) :
    (revealAt test path v).1 = (nodeMatches test (Path.name path) v ||
      v.children.any fun c => (revealAt test (Path.child path c.1) c.2).1) := by
  cases v <;> simp [revealAt, reveal, nodeMatches, Value.leafText?, Value.children,
    itemReveals_eq, fieldReveals_eq, List.any_map, Path.child, Function.comp_def]

theorem reveal_snd (test : String → Bool) (path : String) (children : Bool × List String) :
    (reveal test path children).2 =
      (if (reveal test path children).1 then [path] else []) ++ children.2 := by
  by_cases hit : (reveal test path children).1 = true
  · rw [if_pos hit]
    exact if_pos hit
  · rw [if_neg hit]
    exact if_neg hit

theorem revealAt_snd_children (test : String → Bool) (path : String) (v : Value) :
    (revealAt test path v).2 = (if v.isContainer && (revealAt test path v).1 then [path] else []) ++
      v.children.flatMap fun c => (revealAt test (Path.child path c.1) c.2).2 := by
  cases v with
  | array items =>
    simp [revealAt, reveal_snd, Value.children, Value.isContainer, Value.kind, Kind.isContainer,
      itemReveals_eq, List.flatMap_map, Path.child]
  | object fields =>
    simp [revealAt, reveal_snd, Value.children, Value.isContainer, Value.kind, Kind.isContainer,
      fieldReveals_eq, List.flatMap_map, Path.child]
  | _ => simp [revealAt, Value.children, Value.isContainer, Value.kind, Kind.isContainer]

theorem revealAt_snd_of_not_fst {test : String → Bool} {path : String} {v : Value}
    (h : (revealAt test path v).1 = false) : (revealAt test path v).2 = [] := by
  induction v using inductionOnChildren generalizing path with
  | node v ih =>
    have hbelow : ∀ c ∈ v.children, (revealAt test (Path.child path c.1) c.2).2 = [] := by
      rw [revealAt_fst_children, Bool.or_eq_false_iff, List.any_eq_false] at h
      exact fun c hc => ih c hc (by simpa using h.2 c hc)
    rw [revealAt_snd_children, h, List.flatMap_eq_nil_iff.mpr hbelow]
    simp

/-! ## Nodes -/

/-- A walk that lists the paths of some nodes, each before what lies below it, lists them in the
order of the nodes. -/
theorem walk_eq {walk : String → Value → List String} {keep : String → Value → Bool}
    (hwalk : ∀ path v, walk path v = (if keep path v then [path] else []) ++
      v.children.flatMap fun c => walk (Path.child path c.1) c.2) (trail : List Step) (v : Value) :
    walk (ofSteps trail) v = ((Value.nodesAt trail v).filter fun n =>
      keep (ofSteps n.1) n.2).map fun n => ofSteps n.1 := by
  induction v using inductionOnChildren generalizing trail with
  | node v ih =>
    have hbelow : (v.children.flatMap fun c => walk (Path.child (ofSteps trail) c.1) c.2) =
        v.children.flatMap fun c => ((Value.nodesAt (trail ++ [c.1]) c.2).filter fun n =>
          keep (ofSteps n.1) n.2).map fun n => ofSteps n.1 :=
      List.flatMap_congr fun c hc => by rw [← ofSteps_concat, ih c hc]
    rw [hwalk, hbelow, nodesAt_eq, List.filter_cons, List.filter_flatMap]
    split <;> simp [List.map_flatMap]

/-- The containers, in the order of the nodes. -/
theorem containersAt_eq (trail : List Step) (v : Value) :
    containersAt (ofSteps trail) v =
      ((Value.nodesAt trail v).filter fun n => n.2.isContainer).map fun n => ofSteps n.1 :=
  walk_eq containersAt_children trail v

theorem mem_expandablePaths_iff {document : Value} {p : String} :
    p ∈ expandablePaths document ↔
      ∃ n ∈ document.nodes, n.2.isContainer = true ∧ ofSteps n.1 = p := by
  have hcontainers : containersAt Path.root document =
      (document.nodes.filter fun n => n.2.isContainer).map fun n => ofSteps n.1 :=
    containersAt_eq [] document
  rw [expandablePaths, mem_distinct, hcontainers, List.mem_map]
  simp only [List.mem_filter, and_assoc]

/-- Whether a node matches, by its name or its text. -/
def hits (test : String → Bool) (n : List Step × Value) : Bool :=
  nodeMatches test (Path.name (ofSteps n.1)) n.2

/-- The nodes that match, in their order. -/
theorem matchesAt_eq (test : String → Bool) (trail : List Step) (v : Value) :
    matchesAt test (ofSteps trail) v =
      ((Value.nodesAt trail v).filter (hits test)).map fun n => ofSteps n.1 :=
  walk_eq (matchesAt_children test) trail v

theorem mem_matchPaths_iff {test : String → Bool} {document : Value} {p : String} :
    p ∈ matchPaths test document ↔
      ∃ n ∈ document.nodes, hits test n = true ∧ ofSteps n.1 = p := by
  have hmatches : matchesAt test Path.root document =
      (document.nodes.filter (hits test)).map fun n => ofSteps n.1 :=
    matchesAt_eq test [] document
  rw [matchPaths, mem_distinct, hmatches, List.mem_map]
  simp only [List.mem_filter, and_assoc]

/-- There is a hit in a subtree if one of its nodes matches. -/
theorem revealAt_fst_eq (test : String → Bool) (trail : List Step) (v : Value) :
    (revealAt test (ofSteps trail) v).1 = (Value.nodesAt trail v).any (hits test) := by
  induction v using inductionOnChildren generalizing trail with
  | node v ih =>
    have hbelow : (v.children.any fun c => (revealAt test (Path.child (ofSteps trail) c.1) c.2).1) =
        v.children.any fun c => (Value.nodesAt (trail ++ [c.1]) c.2).any (hits test) := by
      rw [Bool.eq_iff_iff, List.any_eq_true, List.any_eq_true]
      refine exists_congr fun c => and_congr_right fun hc => ?_
      rw [← ofSteps_concat, ih c hc]
    rw [revealAt_fst_children, hbelow, nodesAt_eq, List.any_cons, List.any_flatMap]
    rfl

/-- The containers with a match at or below them, in the order of the nodes. -/
theorem revealAt_snd_eq (test : String → Bool) (trail : List Step) (v : Value) :
    (revealAt test (ofSteps trail) v).2 = ((Value.nodesAt trail v).filter fun n =>
      n.2.isContainer && (Value.nodesAt n.1 n.2).any (hits test)).map fun n => ofSteps n.1 := by
  have hwalk := walk_eq (revealAt_snd_children test) trail v
  simpa only [revealAt_fst_eq] using hwalk

/-! ## Queries -/

/-- A way of reading patterns, given the case flag and the pattern. -/
abbrev Engine := Bool → String → Option (String → Bool)

variable (engine : Engine)

def matchesWith (q : Query) (document : Value) : List String :=
  match q.testWith? engine with
  | some test => matchPaths test document
  | none => []

def revealsWith (q : Query) (document : Value) : List String :=
  match q.testWith? engine with
  | some test => revealPaths test document
  | none => []

/-- Answers a request. Without matches there is nothing to open. -/
def executeWith (request : SearchRequest) : SearchResponse :=
  let paths := matchesWith engine request.query request.document
  { sequenceId := request.sequenceId
    paths := paths
    count := paths.length
    expand := if paths.isEmpty then [] else revealsWith engine request.query request.document }

theorem execute_eq : execute = executeWith Pattern.compile? := rfl

theorem executeWith_of_blank {request : SearchRequest} (hb : request.query.isBlank = true) :
    executeWith engine request = .empty request.sequenceId := by
  simp [executeWith, matchesWith, Query.testWith?, hb, SearchResponse.empty]

/-- A query without matches reveals nothing. -/
theorem revealsWith_of_no_matches {q : Query} {document : Value}
    (h : matchesWith engine q document = []) : revealsWith engine q document = [] := by
  unfold matchesWith at h
  unfold revealsWith
  cases ht : q.testWith? engine with
  | none => rfl
  | some test =>
    have hmatches : matchPaths test document = [] := by simpa [ht] using h
    have hmiss : (revealAt test Path.root document).1 = false := by
      refine (revealAt_fst_eq test [] document).trans (List.any_eq_false.mpr fun n hn hit => ?_)
      exact List.ne_nil_of_mem (mem_matchPaths_iff.mpr ⟨n, hn, hit, rfl⟩) hmatches
    simp [revealPaths, revealAt_snd_of_not_fst hmiss, distinct, distinctFrom]

/-- Nothing is lost by not looking for what to open when nothing matches. -/
theorem expand_executeWith (request : SearchRequest) :
    (executeWith engine request).expand = revealsWith engine request.query request.document := by
  cases h : matchesWith engine request.query request.document with
  | nil => simp [executeWith, h, revealsWith_of_no_matches engine h]
  | cons p rest => simp [executeWith, h]

end JsonExplorer.Search
