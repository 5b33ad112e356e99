import JsonExplorer.Proofs.Path.Names
import JsonExplorer.Proofs.Path.RoundTrip

/-!
What a search finds. The walk reads the name of a node off its path; where no key can be mistaken
for more than one step that is the key or the index of the node itself, so that a search lists just
the nodes which match by their own name or their text, and counts them. In any document it lists
the nodes that match by the name their path shows, each path where it first comes up
(`finds_matching_nodes`).
-/

namespace JsonExplorer.Search

open JsonExplorer.Path (ofSteps ownName)

variable {document : Value} {test : String → Bool}

/-- Whether a node matches by its own name, or as a leaf by its text. -/
def matchesItself (test : String → Bool) (n : List Step × Value) : Bool :=
  test (ownName n.1) || n.2.leafText?.any test

/-- Clean keys are read off the path as they are. -/
theorem hits_eq_matchesItself (clean : document.KeysClean) {n : List Step × Value}
    (hn : n ∈ document.nodes) : hits test n = matchesItself test n := by
  rw [hits, Path.name_ofSteps (clean n hn)]
  rfl

theorem matchPaths_eq (test : String → Bool) (document : Value) :
    matchPaths test document =
      ((document.nodes.filter (hits test)).map fun n => ofSteps n.1).eraseDups := by
  rw [← distinct_eq_eraseDups]
  exact congrArg distinct (matchesAt_eq test [] document)

theorem matchPaths_eq_of_clean (distinct : document.KeysDistinct) (clean : document.KeysClean) :
    matchPaths test document =
      (document.nodes.filter (matchesItself test)).map fun n => ofSteps n.1 := by
  have hpaths : ((document.nodes.filter (hits test)).map fun n => ofSteps n.1).eraseDups =
      (document.nodes.filter (hits test)).map fun n => ofSteps n.1 := by
    rw [← distinct_eq_eraseDups]
    exact distinct_eq_self (Path.nodup_paths_filter distinct clean _)
  rw [matchPaths_eq, hpaths, List.filter_congr fun n hn => hits_eq_matchesItself clean hn]

/-- **A search finds just the nodes that match.** In a document whose keys cannot be mistaken for
more than one step, the matching paths are those of the nodes that match by their own name or, as
leaves, by their text, once each and in the order of the nodes, and an answer counts these nodes.
In any document they are the paths of the nodes that match by the name their path shows, in the
order of the nodes and without later repeats. -/
theorem finds_matching_nodes (engine : Engine) (q : Query) (test : String → Bool)
    (valid : q.testWith? engine = some test) :
    (∀ document : Value, document.KeysDistinct → document.KeysClean →
      let found := document.nodes.filter fun n =>
        test (ownName n.1) || n.2.leafText?.any test
      matchesWith engine q document = found.map (fun n => ofSteps n.1) ∧
      (matchesWith engine q document).Nodup ∧
      ∀ id, (executeWith engine ⟨id, document, q⟩).count = found.length) ∧
    ∀ document : Value, matchesWith engine q document =
      ((document.nodes.filter fun n => nodeMatches test (Path.name (ofSteps n.1)) n.2).map
        fun n => ofSteps n.1).eraseDups := by
  have hmatches : ∀ document, matchesWith engine q document = matchPaths test document := by
    intro document
    simp [matchesWith, valid]
  constructor
  · intro document distinct clean found
    have hfound : matchesWith engine q document = found.map fun n => ofSteps n.1 := by
      rw [hmatches]
      exact matchPaths_eq_of_clean distinct clean
    refine ⟨hfound, ?_, fun id => ?_⟩
    · rw [hmatches]
      exact nodup_distinct _
    · show (matchesWith engine q document).length = found.length
      rw [hfound, List.length_map]
  · intro document
    rw [hmatches]
    exact matchPaths_eq test document

/-- Keys with loose brackets and an empty one, whose paths look like those of items. -/
def labels : Value :=
  .object
    [("", .array [.boolean true, .object [("5]", .number (.integer 12))]]),
      ("[1", .string "x"),
      ("a[b]", .object [("1]", .object [])])]

theorem finds_matching_nodes_labels :
    labels.KeysDistinct ∧ labels.KeysClean ∧
      matchesWith Pattern.compile? { term := " 1" } labels =
        ["Root.[1]", "Root.[1].5]", "Root.[1", "Root.a[b].1]"] := by
  have distinct : labels.KeysDistinct := by
    simp [labels, Value.KeysDistinct, Value.ItemsKeysDistinct, Value.FieldsKeysDistinct,
      Entries.names]
  have clean : labels.KeysClean := by decide +kernel
  have hblank : Query.isBlank { term := " 1" } = false := by decide +kernel
  have valid : Query.testWith? Pattern.compile? { term := " 1" } =
      some fun text => occursIn (Query.needle { term := " 1" })
        (Query.compared { term := " 1" } text.toList) := by
    simp only [Query.testWith?, hblank, Bool.false_eq_true, ↓reduceIte]
  obtain ⟨hfound, -, -⟩ := (finds_matching_nodes Pattern.compile? _ _ valid).1 labels distinct clean
  refine ⟨distinct, clean, ?_⟩
  rw [hfound]
  decide +kernel

end JsonExplorer.Search
