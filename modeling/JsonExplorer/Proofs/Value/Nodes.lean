import JsonExplorer.Value
import Mathlib.Data.List.Nodup
import Mathlib.Data.List.Perm.Basic

/-!
The nodes of a document. A walk over a document is described by what it does at a node and at the
children of the node, and what is proved of walks is proved by one induction
(`inductionOnChildren`). Unless an object holds a key twice, `nodes` lists just what `get?` finds
(`mem_nodes_iff`), and each place once (`nodup_steps`). `nodesUp` lists the same nodes with children
in front of their parent.
-/

namespace JsonExplorer

theorem Entries.get?_eq_some_iff {α : Type} {es : Entries α} (h : es.names.Nodup) {name : String}
    {value : α} : es.get? name = some value ↔ (name, value) ∈ es := by
  induction es with
  | nil => simp [get?]
  | cons e rest ih =>
    obtain ⟨k, v⟩ := e
    obtain ⟨hk, hrest⟩ : k ∉ names rest ∧ (names rest).Nodup := List.nodup_cons.mp h
    by_cases hn : k = name
    · subst hn
      have hnot : (k, value) ∉ rest := fun hm => hk (List.mem_map_of_mem (f := (·.1)) hm)
      simp [get?, hnot, eq_comm]
    · simp [get?, hn, ih hrest, Ne.symm hn]

namespace Value

/-! ## Children -/

theorem isContainer_of_mem_children {v : Value} {c : Step × Value} (h : c ∈ v.children) :
    v.isContainer = true := by
  cases v with
  | array | object => rfl
  | _ => simp [children] at h

theorem sizeOf_lt_of_mem_children {v : Value} {c : Step × Value} (h : c ∈ v.children) :
    sizeOf c.2 < sizeOf v := by
  cases v with
  | array items =>
    obtain ⟨x, hx, rfl⟩ := List.mem_map.mp h
    have := List.sizeOf_lt_of_mem (List.fst_mem_of_mem_zipIdx hx)
    simp only [array.sizeOf_spec]
    omega
  | object fields =>
    obtain ⟨f, hf, rfl⟩ := List.mem_map.mp h
    have := List.sizeOf_lt_of_mem hf
    obtain ⟨k, w⟩ := f
    simp only [object.sizeOf_spec, Prod.mk.sizeOf_spec] at this ⊢
    omega
  | _ => simp [children] at h

/-- What holds of a value whenever it holds of its children holds of every value. -/
@[elab_as_elim]
theorem inductionOnChildren {motive : Value → Prop}
    (node : ∀ v, (∀ c ∈ v.children, motive c.2) → motive v) (v : Value) : motive v :=
  node v fun c _ => inductionOnChildren node c.2
termination_by sizeOf v
decreasing_by exact sizeOf_lt_of_mem_children ‹_›

theorem itemsKeysDistinct_iff {items : List Value} :
    ItemsKeysDistinct items ↔ ∀ v ∈ items, v.KeysDistinct := by
  induction items with
  | nil => simp [ItemsKeysDistinct]
  | cons v rest ih => simp [ItemsKeysDistinct, ih]

theorem fieldsKeysDistinct_iff {fields : List (String × Value)} :
    FieldsKeysDistinct fields ↔ ∀ f ∈ fields, f.2.KeysDistinct := by
  induction fields with
  | nil => simp [FieldsKeysDistinct]
  | cons f rest ih => simp only [FieldsKeysDistinct, ih, List.forall_mem_cons]

theorem KeysDistinct.of_mem_children {v : Value} (h : v.KeysDistinct) {c : Step × Value}
    (hc : c ∈ v.children) : c.2.KeysDistinct := by
  cases v with
  | array items =>
    obtain ⟨x, hx, rfl⟩ := List.mem_map.mp hc
    exact itemsKeysDistinct_iff.mp h x.1 (List.fst_mem_of_mem_zipIdx hx)
  | object fields =>
    obtain ⟨f, hf, rfl⟩ := List.mem_map.mp hc
    exact fieldsKeysDistinct_iff.mp h.2 f hf
  | _ => simp [children] at hc

/-- The children are what single steps lead to. -/
theorem mem_children_iff {v : Value} (h : v.KeysDistinct) {s : Step} {c : Value} :
    (s, c) ∈ v.children ↔ v.child? s = some c := by
  cases v with
  | array items =>
    cases s with
    | key k => simp [children, child?]
    | index i => simp [children, child?, List.mem_zipIdx_iff_getElem?]
  | object fields =>
    cases s with
    | key k => simp [children, child?, Entries.get?_eq_some_iff h.1]
    | index i => simp [children, child?]
  | _ => cases s <;> simp [children, child?]

theorem KeysDistinct.of_get? {v w : Value} (h : v.KeysDistinct) {steps : List Step}
    (hw : v.get? steps = some w) : w.KeysDistinct := by
  induction steps generalizing v with
  | nil =>
    obtain rfl : v = w := by simpa [get?] using hw
    exact h
  | cons s rest ih =>
    obtain ⟨c, hc, hw⟩ := Option.bind_eq_some_iff.mp hw
    exact ih (h.of_mem_children ((mem_children_iff h).mpr hc)) hw

theorem nodup_steps_children {v : Value} (h : v.KeysDistinct) :
    (v.children.map (·.1)).Nodup := by
  cases v with
  | array items =>
    have hsteps : (array items).children.map (·.1) =
        (List.range items.length).map Step.index := by
      rw [List.range_eq_range', ← List.zipIdx_map_snd 0 items, List.map_map]
      exact List.map_map
    rw [hsteps]
    exact List.nodup_range.map fun i j hij => Step.index.inj hij
  | object fields =>
    have hsteps : (object fields).children.map (·.1) = (Entries.names fields).map Step.key := by
      simp [children, Entries.names]
    rw [hsteps]
    exact h.1.map fun k l hkl => Step.key.inj hkl
  | _ => simp [children]

/-! ## Nodes -/

theorem itemNodes_eq (trail : List Step) (i : Nat) (items : List Value) :
    itemNodes trail i items =
      (items.zipIdx i).flatMap fun x => nodesAt (trail ++ [.index x.2]) x.1 := by
  induction items generalizing i with
  | nil => rfl
  | cons v rest ih => simp [itemNodes, ih]

theorem fieldNodes_eq (trail : List Step) (fields : List (String × Value)) :
    fieldNodes trail fields = fields.flatMap fun f => nodesAt (trail ++ [.key f.1]) f.2 := by
  induction fields with
  | nil => rfl
  | cons f rest ih => simp [fieldNodes, ih]

/-- A node comes before its children. -/
theorem nodesAt_eq (trail : List Step) (v : Value) :
    nodesAt trail v =
      (trail, v) :: v.children.flatMap fun c => nodesAt (trail ++ [c.1]) c.2 := by
  cases v <;> simp [nodesAt, children, itemNodes_eq, fieldNodes_eq, List.flatMap_map]

theorem root_mem_nodes (v : Value) : ([], v) ∈ v.nodes := by
  rw [nodes, nodesAt_eq]
  exact List.mem_cons_self

/-- The steps to a node go on from those to every node above it. -/
theorem prefix_of_mem_nodesAt {trail : List Step} {v : Value} {n : List Step × Value}
    (hn : n ∈ nodesAt trail v) : trail <+: n.1 := by
  induction v using inductionOnChildren generalizing trail with
  | node v ih =>
    rw [nodesAt_eq, List.mem_cons, List.mem_flatMap] at hn
    rcases hn with rfl | ⟨c, hc, hn⟩
    · exact List.prefix_rfl
    · exact (List.prefix_append trail [c.1]).trans (ih c hc hn)

/-- The children of a node are nodes. -/
theorem child_mem_nodesAt {trail : List Step} {v : Value} {n : List Step × Value}
    (hn : n ∈ nodesAt trail v) {c : Step × Value} (hc : c ∈ n.2.children) :
    (n.1 ++ [c.1], c.2) ∈ nodesAt trail v := by
  induction v using inductionOnChildren generalizing trail with
  | node v ih =>
    rw [nodesAt_eq, List.mem_cons, List.mem_flatMap] at hn
    rw [nodesAt_eq, List.mem_cons, List.mem_flatMap]
    rcases hn with rfl | ⟨d, hd, hn⟩
    · refine Or.inr ⟨c, hc, ?_⟩
      rw [nodesAt_eq]
      exact List.mem_cons_self
    · exact Or.inr ⟨d, hd, ih d hd hn⟩

/-- Every node on the way to another is a container of the document. -/
theorem exists_container_above {trail : List Step} {v : Value} {n : List Step × Value}
    (hn : n ∈ nodesAt trail v) {i : Nat} (htrail : trail.length ≤ i) (hi : i < n.1.length) :
    ∃ w, (n.1.take i, w) ∈ nodesAt trail v ∧ w.isContainer = true := by
  induction v using inductionOnChildren generalizing trail with
  | node v ih =>
    rw [nodesAt_eq, List.mem_cons, List.mem_flatMap] at hn
    rcases hn with rfl | ⟨c, hc, hn⟩
    · exact absurd hi (Nat.not_lt.mpr htrail)
    · have hprefix := prefix_of_mem_nodesAt hn
      rw [nodesAt_eq]
      by_cases hhere : i = trail.length
      · -- the node right above the child is the one we are at
        have htake : n.1.take i = trail := by
          obtain ⟨more, hmore⟩ := hprefix
          simp [← hmore, hhere]
        rw [htake]
        exact ⟨v, List.mem_cons_self, isContainer_of_mem_children hc⟩
      · have hbelow : (trail ++ [c.1]).length ≤ i := by
          simp only [List.length_append, List.length_singleton]
          omega
        obtain ⟨w, hw, hcontainer⟩ := ih c hc hn hbelow
        exact ⟨w, List.mem_cons_of_mem _ (List.mem_flatMap.mpr ⟨c, hc, hw⟩), hcontainer⟩

theorem mem_nodesAt_iff {v : Value} (h : v.KeysDistinct) {trail steps : List Step} {w : Value} :
    (steps, w) ∈ nodesAt trail v ↔ ∃ more, steps = trail ++ more ∧ v.get? more = some w := by
  induction v using inductionOnChildren generalizing trail with
  | node v ih =>
    rw [nodesAt_eq, List.mem_cons, List.mem_flatMap]
    constructor
    · rintro (he | ⟨⟨s, c⟩, hc, hm⟩)
      · obtain ⟨rfl, rfl⟩ := Prod.mk.inj he
        exact ⟨[], by simp, rfl⟩
      · obtain ⟨more, rfl, hw⟩ := (ih _ hc (h.of_mem_children hc)).mp hm
        exact ⟨s :: more, by simp, by simpa [get?, (mem_children_iff h).mp hc] using hw⟩
    · rintro ⟨more, rfl, hw⟩
      cases more with
      | nil =>
        obtain rfl : v = w := by simpa [get?] using hw
        exact Or.inl (by simp)
      | cons s more =>
        obtain ⟨c, hs, hw⟩ := Option.bind_eq_some_iff.mp hw
        have hc : (s, c) ∈ v.children := (mem_children_iff h).mpr hs
        exact Or.inr ⟨(s, c), hc, (ih _ hc (h.of_mem_children hc)).mpr ⟨more, by simp, hw⟩⟩

/-- The nodes are what lists of steps lead to. -/
theorem mem_nodes_iff {v : Value} (h : v.KeysDistinct) {steps : List Step} {w : Value} :
    (steps, w) ∈ v.nodes ↔ v.get? steps = some w := by
  simp [nodes, mem_nodesAt_iff h]

/-- The nodes below a node are those whose steps go on from its steps. -/
theorem mem_nodesAt_iff_prefix {v : Value} (h : v.KeysDistinct) {n m : List Step × Value}
    (hn : n ∈ v.nodes) : m ∈ nodesAt n.1 n.2 ↔ m ∈ v.nodes ∧ n.1 <+: m.1 := by
  obtain ⟨steps, w⟩ := n
  obtain ⟨steps', w'⟩ := m
  have hw : v.get? steps = some w := (mem_nodes_iff h).mp hn
  rw [mem_nodesAt_iff (h.of_get? hw), mem_nodes_iff h]
  constructor
  · rintro ⟨more, rfl, hmore⟩
    refine ⟨?_, List.prefix_append _ _⟩
    rw [get?_append, hw]
    exact hmore
  · rintro ⟨hm, more, rfl⟩
    rw [get?_append, hw] at hm
    exact ⟨more, rfl, hm⟩

/-- No list of steps leads to two nodes. -/
theorem nodup_steps {v : Value} (h : v.KeysDistinct) (trail : List Step) :
    ((nodesAt trail v).map (·.1)).Nodup := by
  induction v using inductionOnChildren generalizing trail with
  | node v ih =>
    -- steps to a child and below go on from the steps to the child
    have hfirst : ∀ c ∈ v.children, ∀ steps ∈ (nodesAt (trail ++ [c.1]) c.2).map (·.1),
        ∃ more, steps = trail ++ c.1 :: more := by
      intro c hc steps hs
      obtain ⟨⟨steps, w⟩, hn, rfl⟩ := List.mem_map.mp hs
      obtain ⟨more, rfl, _⟩ := (mem_nodesAt_iff (h.of_mem_children hc)).mp hn
      exact ⟨more, by simp⟩
    rw [nodesAt_eq, List.map_cons, List.map_flatMap, List.nodup_cons]
    refine ⟨fun hm => ?_, List.nodup_flatMap.mpr ⟨fun c hc => ih c hc (h.of_mem_children hc) _, ?_⟩⟩
    · obtain ⟨c, hc, hs⟩ := List.mem_flatMap.mp hm
      obtain ⟨more, he⟩ := hfirst c hc _ hs
      simp at he
    · refine (List.pairwise_map.mp (nodup_steps_children h)).imp_of_mem fun hc hd hne => ?_
      intro steps hs hs'
      obtain ⟨more, rfl⟩ := hfirst _ hc steps hs
      obtain ⟨more', he⟩ := hfirst _ hd _ hs'
      exact hne (List.cons.inj (List.append_cancel_left he)).1

/-- The nodes below a node stand in one piece right behind it. -/
theorem exists_split_nodesAt {trail : List Step} {v : Value} {n : List Step × Value}
    (hn : n ∈ nodesAt trail v) :
    ∃ before after, nodesAt trail v = before ++ nodesAt n.1 n.2 ++ after := by
  induction v using inductionOnChildren generalizing trail with
  | node v ih =>
    rw [nodesAt_eq] at hn ⊢
    rcases List.mem_cons.mp hn with rfl | hbelow
    · exact ⟨[], [], by rw [nodesAt_eq]; simp⟩
    · obtain ⟨c, hc, hn⟩ := List.mem_flatMap.mp hbelow
      obtain ⟨earlier, later, hchildren⟩ := List.append_of_mem hc
      obtain ⟨before, after, hsplit⟩ := ih c hc hn
      rw [hchildren, List.flatMap_append, List.flatMap_cons, hsplit]
      exact ⟨(trail, v) :: (earlier.flatMap fun d => nodesAt (trail ++ [d.1]) d.2) ++ before,
        after ++ later.flatMap fun d => nodesAt (trail ++ [d.1]) d.2, by simp⟩

/-- Around a node stand those that are not below it. -/
theorem exists_split_nodes {v : Value} (h : v.KeysDistinct) {n : List Step × Value}
    (hn : n ∈ v.nodes) : ∃ before below after, v.nodes = before ++ n :: (below ++ after) ∧
      (∀ m ∈ below, n.1 <+: m.1 ∧ m.1 ≠ n.1) ∧ ∀ m ∈ before ++ after, ¬ n.1 <+: m.1 := by
  obtain ⟨before, after, hsplit⟩ := exists_split_nodesAt hn
  have hnodup : ((before ++ nodesAt n.1 n.2 ++ after).map (·.1)).Nodup :=
    hsplit ▸ nodup_steps h []
  refine ⟨before, n.2.children.flatMap fun c => nodesAt (n.1 ++ [c.1]) c.2, after, ?_, ?_, ?_⟩
  · rw [nodes, hsplit, nodesAt_eq]
    simp
  · intro m hm
    obtain ⟨c, -, hm⟩ := List.mem_flatMap.mp hm
    have hprefix := prefix_of_mem_nodesAt hm
    refine ⟨(List.prefix_append n.1 [c.1]).trans hprefix, fun he => ?_⟩
    have hle := hprefix.length_le
    rw [he, List.length_append, List.length_singleton] at hle
    omega
  · intro m hm hprefix
    -- a node below `n` stands among those behind `n`, and no node stands twice
    have hin : m ∈ v.nodes := by
      rw [nodes, hsplit]
      rcases List.mem_append.mp hm with hm | hm <;> simp [hm]
    have hbelow : m ∈ nodesAt n.1 n.2 := (Value.mem_nodesAt_iff_prefix h hn).mpr ⟨hin, hprefix⟩
    rw [List.map_append, List.map_append] at hnodup
    obtain ⟨hfront, -, hback⟩ := List.nodup_append.mp hnodup
    rcases List.mem_append.mp hm with hm | hm
    · exact (List.nodup_append.mp hfront).2.2 _ (List.mem_map_of_mem hm) _
        (List.mem_map_of_mem hbelow) rfl
    · exact hback _ (List.mem_append_right _ (List.mem_map_of_mem hbelow)) _
        (List.mem_map_of_mem hm) rfl

/-! ## Children first -/

mutual

/-- Every node below and including this one, each behind the nodes below it and siblings in
document order; `trail` are the steps already taken. -/
def nodesUpAt (trail : List Step) : Value → List (List Step × Value)
  | array items => itemNodesUp trail 0 items ++ [(trail, array items)]
  | object fields => fieldNodesUp trail fields ++ [(trail, object fields)]
  | v => [(trail, v)]

def itemNodesUp (trail : List Step) (i : Nat) : List Value → List (List Step × Value)
  | [] => []
  | v :: rest => nodesUpAt (trail ++ [.index i]) v ++ itemNodesUp trail (i + 1) rest

def fieldNodesUp (trail : List Step) : List (String × Value) → List (List Step × Value)
  | [] => []
  | (k, v) :: rest => nodesUpAt (trail ++ [.key k]) v ++ fieldNodesUp trail rest

end

/-- Every node of the document with the steps to it, children before their parent. -/
def nodesUp (v : Value) : List (List Step × Value) := nodesUpAt [] v

theorem itemNodesUp_eq (trail : List Step) (i : Nat) (items : List Value) :
    itemNodesUp trail i items =
      (items.zipIdx i).flatMap fun x => nodesUpAt (trail ++ [.index x.2]) x.1 := by
  induction items generalizing i with
  | nil => rfl
  | cons v rest ih => simp [itemNodesUp, ih]

theorem fieldNodesUp_eq (trail : List Step) (fields : List (String × Value)) :
    fieldNodesUp trail fields = fields.flatMap fun f => nodesUpAt (trail ++ [.key f.1]) f.2 := by
  induction fields with
  | nil => rfl
  | cons f rest ih => simp [fieldNodesUp, ih]

/-- A node comes after its children. -/
theorem nodesUpAt_eq (trail : List Step) (v : Value) :
    nodesUpAt trail v =
      (v.children.flatMap fun c => nodesUpAt (trail ++ [c.1]) c.2) ++ [(trail, v)] := by
  cases v <;> simp [nodesUpAt, children, itemNodesUp_eq, fieldNodesUp_eq, List.flatMap_map]

/-- Both orders list the same nodes. -/
theorem nodesUpAt_perm (trail : List Step) (v : Value) :
    (nodesUpAt trail v).Perm (nodesAt trail v) := by
  induction v using inductionOnChildren generalizing trail with
  | node v ih =>
    rw [nodesUpAt_eq, nodesAt_eq]
    refine List.perm_append_comm.trans (List.Perm.cons _ ?_)
    exact List.Perm.flatMap_left _ fun c hc => ih c hc _

end Value

end JsonExplorer
