import JsonExplorer.Proofs.Search.Walks

/-!
Paths of the nodes of a document. Where no key can be mistaken for more than one step, a path leads
back to its own node, no two nodes share one, and the paths that can be opened are those of the
containers, once each and in the order of the nodes (`path_round_trip`).
-/

namespace JsonExplorer

namespace Value

/-- No key of the document can be mistaken for more than one step. -/
def KeysClean (v : Value) : Prop := ∀ n ∈ v.nodes, ∀ s ∈ n.1, s.Clean

/-- The arrays of the document have fewer than `2 ^ 64` items. -/
def ArraysShort (v : Value) : Prop :=
  ∀ n ∈ v.nodes, n.2.kind = .array → n.2.childCount < UInt64.size

instance (v : Value) : Decidable v.KeysClean :=
  inferInstanceAs (Decidable (∀ n ∈ v.nodes, ∀ s ∈ n.1, s.Clean))

instance (v : Value) : Decidable v.ArraysShort :=
  inferInstanceAs (Decidable (∀ n ∈ v.nodes, n.2.kind = .array → n.2.childCount < UInt64.size))

end Value

namespace Path

variable {document : Value}

theorem clean_of_get? (distinct : document.KeysDistinct) (clean : document.KeysClean)
    {steps : List Step} {node : Value} (h : document.get? steps = some node) :
    ∀ s ∈ steps, s.Clean :=
  clean (steps, node) ((Value.mem_nodes_iff distinct).mpr h)

/-- An index on the way to a node is one of an array of the document. -/
theorem index_lt_of_get? (distinct : document.KeysDistinct) (short : document.ArraysShort)
    {steps : List Step} {node : Value} (h : document.get? steps = some node) {i : Nat}
    (hi : Step.index i ∈ steps) : i < UInt64.size := by
  obtain ⟨before, after, rfl⟩ := List.append_of_mem hi
  rw [Value.get?_append] at h
  obtain ⟨parent, hparent, hafter⟩ := Option.bind_eq_some_iff.mp h
  obtain ⟨item, hitem, _⟩ := Option.bind_eq_some_iff.mp hafter
  cases parent with
  | array items =>
    have hlt : i < items.length := (List.getElem?_eq_some_iff.mp hitem).1
    have hshort := short (before, .array items) ((Value.mem_nodes_iff distinct).mpr hparent) rfl
    exact Nat.lt_trans hlt hshort
  | _ => simp [Value.child?] at hitem

/-- No two nodes have the same path. -/
theorem nodup_paths (distinct : document.KeysDistinct) (clean : document.KeysClean) :
    (document.nodes.map fun n => ofSteps n.1).Nodup := by
  have hpaths : (document.nodes.map fun n => ofSteps n.1) =
      (document.nodes.map (·.1)).map ofSteps := by simp
  rw [hpaths]
  refine (Value.nodup_steps distinct []).map_on fun a ha b hb => ?_
  obtain ⟨n, hn, rfl⟩ := List.mem_map.mp ha
  obtain ⟨m, hm, rfl⟩ := List.mem_map.mp hb
  exact ofSteps_injective (clean n hn) (clean m hm)

theorem eq_of_ofSteps_eq (distinct : document.KeysDistinct) (clean : document.KeysClean)
    {n m : List Step × Value} (hn : n ∈ document.nodes) (hm : m ∈ document.nodes)
    (he : ofSteps n.1 = ofSteps m.1) : n = m :=
  List.inj_on_of_nodup_map (nodup_paths distinct clean) hn hm he

theorem nodup_paths_filter (distinct : document.KeysDistinct) (clean : document.KeysClean)
    (keep : List Step × Value → Bool) :
    ((document.nodes.filter keep).map fun n => ofSteps n.1).Nodup :=
  (nodup_paths distinct clean).sublist (List.filter_sublist.map _)

/-- What can be opened are the containers, in the order of the nodes. -/
theorem expandablePaths_eq (distinct : document.KeysDistinct) (clean : document.KeysClean) :
    Search.expandablePaths document =
      (document.nodes.filter fun n => n.2.isContainer).map fun n => ofSteps n.1 := by
  rw [← distinct_eq_self (nodup_paths_filter distinct clean _)]
  exact congrArg JsonExplorer.distinct (Search.containersAt_eq [] document)

/-- **Paths lead back to their nodes.** -/
theorem path_round_trip (document : Value) (distinct : document.KeysDistinct)
    (clean : document.KeysClean) (short : document.ArraysShort) :
    (∀ steps node, document.get? steps = some node →
      resolve document (ofSteps steps) = some node) ∧
    (∀ steps steps' node node', document.get? steps = some node →
      document.get? steps' = some node' → ofSteps steps = ofSteps steps' → steps = steps') ∧
    Search.expandablePaths document =
      (document.nodes.filter fun n => n.2.isContainer).map (fun n => ofSteps n.1) ∧
    (Search.expandablePaths document).Nodup ∧
    ∀ p, p ∈ Search.expandablePaths document ↔ ∃ steps node, document.get? steps = some node ∧
      node.isContainer = true ∧ ofSteps steps = p ∧ resolve document p = some node := by
  have hresolve : ∀ steps node, document.get? steps = some node →
      resolve document (ofSteps steps) = some node := fun steps node h => by
    rw [resolve_ofSteps document (clean_of_get? distinct clean h)
      fun i hi => index_lt_of_get? distinct short h hi]
    exact h
  refine ⟨hresolve, fun steps steps' node node' h h' he => ?_,
    expandablePaths_eq distinct clean, nodup_distinct _, fun p => ?_⟩
  · exact ofSteps_injective (clean_of_get? distinct clean h) (clean_of_get? distinct clean h') he
  · rw [expandablePaths_eq distinct clean]
    simp only [List.mem_map, List.mem_filter]
    constructor
    · rintro ⟨⟨steps, node⟩, ⟨hn, hc⟩, rfl⟩
      have h := (Value.mem_nodes_iff distinct).mp hn
      exact ⟨steps, node, h, hc, rfl, hresolve steps node h⟩
    · rintro ⟨steps, node, h, hc, rfl, _⟩
      exact ⟨(steps, node), ⟨(Value.mem_nodes_iff distinct).mpr h, hc⟩, rfl⟩

/-- Keys that are empty or hold loose brackets, next to indices and empty containers. -/
def brackets : Value :=
  .object
    [("", .array [.array [], .object [("]", .null)]]),
      ("[1", .array [.string "x"]),
      ("a[b]", .object [("1]", .object [])])]

theorem path_round_trip_brackets :
    brackets.KeysDistinct ∧ brackets.KeysClean ∧ brackets.ArraysShort ∧
      resolve brackets "Root.[1[0]" = some (.string "x") ∧
      Search.expandablePaths brackets =
        ["Root", "Root.", "Root.[0]", "Root.[1]", "Root.[1", "Root.a[b]", "Root.a[b].1]"] := by
  have distinct : brackets.KeysDistinct := by
    simp [brackets, Value.KeysDistinct, Value.ItemsKeysDistinct, Value.FieldsKeysDistinct,
      Entries.names]
  have clean : brackets.KeysClean := by decide +kernel
  have short : brackets.ArraysShort := by decide +kernel
  obtain ⟨hresolve, _, hexpandable, _, _⟩ := path_round_trip brackets distinct clean short
  refine ⟨distinct, clean, short, hresolve [.key "[1", .index 0] (.string "x") rfl, ?_⟩
  rw [hexpandable]
  rfl

end Path

end JsonExplorer
