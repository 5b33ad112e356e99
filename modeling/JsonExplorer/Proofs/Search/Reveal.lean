import JsonExplorer.Proofs.Path.RoundTrip

/-!
What a search reveals. Where no key can be mistaken for more than one step, the revealed paths are
those of the containers at or above a match, once each and in the order of the nodes; in every
document, nothing is revealed when nothing matches (`reveals_what_matches_need`).
-/

namespace JsonExplorer.Search

open JsonExplorer.Path (ofSteps)

variable {document : Value} {test : String → Bool}

/-- The path of a node is listed exactly if that node matches. -/
theorem ofSteps_mem_matchPaths_iff (distinct : document.KeysDistinct)
    (clean : document.KeysClean) {n : List Step × Value} (hn : n ∈ document.nodes) :
    ofSteps n.1 ∈ matchPaths test document ↔ hits test n = true := by
  rw [mem_matchPaths_iff]
  refine ⟨?_, fun hit => ⟨n, hn, hit, rfl⟩⟩
  rintro ⟨m, hm, hit, he⟩
  rwa [← Path.eq_of_ofSteps_eq distinct clean hm hn he]

/-- A container that is at or above a match. -/
def holdsMatch (test : String → Bool) (n : List Step × Value) : Bool :=
  n.2.isContainer && (Value.nodesAt n.1 n.2).any (hits test)

theorem revealPaths_eq (distinct : document.KeysDistinct) (clean : document.KeysClean) :
    revealPaths test document =
      (document.nodes.filter (holdsMatch test)).map fun n => ofSteps n.1 := by
  rw [← distinct_eq_self (Path.nodup_paths_filter distinct clean _)]
  exact congrArg JsonExplorer.distinct (revealAt_snd_eq test [] document)

theorem mem_revealPaths_iff (distinct : document.KeysDistinct) (clean : document.KeysClean)
    {p : String} : p ∈ revealPaths test document ↔
      ∃ n ∈ document.nodes, n.2.isContainer = true ∧ ofSteps n.1 = p ∧
        ∃ m ∈ document.nodes, n.1 <+: m.1 ∧ ofSteps m.1 ∈ matchPaths test document := by
  rw [revealPaths_eq distinct clean]
  simp only [List.mem_map, List.mem_filter, holdsMatch, Bool.and_eq_true, List.any_eq_true]
  constructor
  · rintro ⟨n, ⟨hn, hc, m, hm, hit⟩, rfl⟩
    obtain ⟨hm, hprefix⟩ := (Value.mem_nodesAt_iff_prefix distinct hn).mp hm
    exact ⟨n, hn, hc, rfl, m, hm, hprefix, mem_matchPaths_iff.mpr ⟨m, hm, hit, rfl⟩⟩
  · rintro ⟨n, hn, hc, rfl, m, hm, hprefix, hmatch⟩
    have hit := (ofSteps_mem_matchPaths_iff distinct clean hm).mp hmatch
    exact ⟨n, ⟨hn, hc, m, (Value.mem_nodesAt_iff_prefix distinct hn).mpr ⟨hm, hprefix⟩, hit⟩, rfl⟩

/-- The root is revealed if it is a container and anything matches. -/
theorem root_mem_revealPaths_iff (distinct : document.KeysDistinct)
    (clean : document.KeysClean) : Path.root ∈ revealPaths test document ↔
      document.isContainer = true ∧ matchPaths test document ≠ [] := by
  have hroot := Value.root_mem_nodes document
  rw [mem_revealPaths_iff distinct clean]
  constructor
  · rintro ⟨n, hn, hc, he, m, _, _, hmatch⟩
    obtain rfl : n = ([], document) := Path.eq_of_ofSteps_eq distinct clean hn hroot he
    exact ⟨hc, List.ne_nil_of_mem hmatch⟩
  · rintro ⟨hc, hne⟩
    obtain ⟨p, hp⟩ := List.exists_mem_of_ne_nil _ hne
    obtain ⟨m, hm, hit, rfl⟩ := mem_matchPaths_iff.mp hp
    exact ⟨([], document), hroot, hc, rfl, m, hm, List.nil_prefix, hp⟩

/-- A leaf is never revealed. -/
theorem not_mem_revealPaths_of_leaf (distinct : document.KeysDistinct)
    (clean : document.KeysClean) {n : List Step × Value} (hn : n ∈ document.nodes)
    (hleaf : n.2.isContainer = false) : ofSteps n.1 ∉ revealPaths test document := by
  rw [mem_revealPaths_iff distinct clean]
  rintro ⟨m, hm, hc, he, _⟩
  rw [Path.eq_of_ofSteps_eq distinct clean hm hn he, hleaf] at hc
  exact Bool.false_ne_true hc

/-- **A search reveals just what its matches need.** In a document whose keys cannot be mistaken
for more than one step, the revealed paths are those of the containers at or above a match, once
each, in the order of the nodes; no leaf is among them, and the root is if it is a container and
anything matches. In any document nothing is revealed when nothing matches, so that a search which
then does not look for what to open still lists all that is revealed. -/
theorem reveals_what_matches_need (engine : Engine) :
    (∀ (q : Query) (document : Value), document.KeysDistinct → document.KeysClean →
      let matching := matchesWith engine q document
      let revealed := revealsWith engine q document
      (∀ p, p ∈ revealed ↔ ∃ n ∈ document.nodes, n.2.isContainer = true ∧ ofSteps n.1 = p ∧
        ∃ m ∈ document.nodes, n.1 <+: m.1 ∧ ofSteps m.1 ∈ matching) ∧
      revealed.Nodup ∧
      revealed.Sublist (document.nodes.map fun n => ofSteps n.1) ∧
      (∀ n ∈ document.nodes, n.2.isContainer = false → ofSteps n.1 ∉ revealed) ∧
      (Path.root ∈ revealed ↔ document.isContainer = true ∧ matching ≠ [])) ∧
    (∀ (q : Query) (document : Value),
      matchesWith engine q document = [] → revealsWith engine q document = []) ∧
    ∀ request : SearchRequest, (executeWith engine request).expand =
      revealsWith engine request.query request.document := by
  refine ⟨fun q document distinct clean => ?_, fun q document h =>
    revealsWith_of_no_matches engine h, expand_executeWith engine⟩
  cases ht : q.testWith? engine with
  | none => simp [matchesWith, revealsWith, ht]
  | some test =>
    simp only [matchesWith, revealsWith, ht]
    refine ⟨fun p => mem_revealPaths_iff distinct clean, nodup_distinct _, ?_,
      fun n hn => not_mem_revealPaths_of_leaf distinct clean hn,
      root_mem_revealPaths_iff distinct clean⟩
    rw [revealPaths_eq distinct clean]
    exact List.filter_sublist.map _

/-- A container that matches by its name, and a leaf below two containers. -/
def targets : Value :=
  .object
    [("target", .object [("x", .number (.integer 1))]),
      ("other", .array []),
      ("list", .array [.null, .object [("k", .string "on Target")]])]

theorem reveals_what_matches_need_targets :
    targets.KeysDistinct ∧ targets.KeysClean ∧
      "Root.list[1]" ∈ revealsWith Pattern.compile? { term := "target" } targets ∧
      "Root.list[1].k" ∉ revealsWith Pattern.compile? { term := "target" } targets := by
  have distinct : targets.KeysDistinct := by
    simp [targets, Value.KeysDistinct, Value.ItemsKeysDistinct, Value.FieldsKeysDistinct,
      Entries.names]
  have clean : targets.KeysClean := by decide +kernel
  obtain ⟨hiff, _, _, hleaf, _⟩ :=
    (reveals_what_matches_need Pattern.compile?).1 { term := "target" } targets distinct clean
  have hlist : ([.key "list", .index 1], .object [("k", .string "on Target")]) ∈ targets.nodes :=
    (Value.mem_nodes_iff distinct).mpr rfl
  have hk : ([.key "list", .index 1, .key "k"], .string "on Target") ∈ targets.nodes :=
    (Value.mem_nodes_iff distinct).mpr rfl
  have hmatch : "Root.list[1].k" ∈ matchesWith Pattern.compile? { term := "target" } targets := by
    have hblank : Query.isBlank { term := "target" } = false := by decide +kernel
    simp only [matchesWith, Query.testWith?, hblank, Bool.false_eq_true, ↓reduceIte]
    exact mem_matchPaths_iff.mpr ⟨_, hk, by decide +kernel, rfl⟩
  exact ⟨distinct, clean, (hiff _).mpr ⟨_, hlist, rfl, rfl, _, hk, by simp, hmatch⟩,
    hleaf _ hk rfl⟩

end JsonExplorer.Search
