import JsonExplorer.Proofs.Outline.Rows
import JsonExplorer.Proofs.Path.RoundTrip

/-!
What opening or closing one path does to the rows of an outline. Rows depend on paths alone, so two
sets of open paths that differ in one path only (`AgreeOff`) give the same rows unless that path is
the one of a container that has a row (`rows_eq_of_agreeOff`). If it is, then where keys are clean
no other node has that path, and the rows differ by one block, the rows of nodes below that
container, right behind its own row (`exists_around`).
-/

namespace JsonExplorer.Outline

open JsonExplorer.Path (ofSteps ofSteps_injective)

variable {document : Value} {opened opened' : List String} {p : String} {limit : Option Nat}
  {n m : List Step × Value}

/-- Two sets of open paths with the same members, but for `p` at most. -/
def AgreeOff (p : String) (opened opened' : List String) : Prop :=
  ∀ q, q ≠ p → (q ∈ opened ↔ q ∈ opened')

theorem AgreeOff.symm (h : AgreeOff p opened opened') : AgreeOff p opened' opened :=
  fun q hq => (h q hq).symm

/-- Every node above this one is open. -/
def Reaches (opened : List String) (n : List Step × Value) : Prop :=
  ∀ i < n.1.length, ofSteps (n.1.take i) ∈ opened

instance (opened : List String) (n : List Step × Value) : Decidable (Reaches opened n) :=
  inferInstanceAs (Decidable (∀ i < n.1.length, _))

theorem reached_eq_filter (opened : List String) (document : Value) :
    reached opened document = document.nodes.filter (Reaches opened ·) := rfl

theorem mem_reached_iff :
    n ∈ reached opened document ↔ n ∈ document.nodes ∧ Reaches opened n := by
  simp [reached_eq_filter]

theorem take_take_of_lt {steps : List Step} {i j : Nat} (h : j < i) :
    (steps.take i).take j = steps.take j := by
  rw [List.take_take, Nat.min_eq_left (Nat.le_of_lt h)]

/-- Opening or closing a path changes nothing that is reached, if it is not the path of a container
that is reached. -/
theorem reached_eq_of_agreeOff (h : AgreeOff p opened opened')
    (hleaf : ∀ n ∈ reached opened document, ofSteps n.1 = p → n.2.isContainer = false) :
    reached opened' document = reached opened document := by
  refine List.filter_congr fun m hm => decide_eq_decide.mpr ?_
  -- a node above `m` that is reached is a container, and so has another path than `p`
  have habove : ∀ i < m.1.length, (∀ j < i, ofSteps (m.1.take j) ∈ opened) →
      ofSteps (m.1.take i) ≠ p := by
    intro i hi hopen he
    obtain ⟨w, hw, hcontainer⟩ := Value.exists_container_above hm (Nat.zero_le i) hi
    have hreached : (m.1.take i, w) ∈ reached opened document := by
      refine mem_reached_iff.mpr ⟨hw, fun j hj => ?_⟩
      have hlt : j < i := Nat.lt_of_lt_of_le hj (List.length_take_le i m.1)
      rw [take_take_of_lt hlt]
      exact hopen j hlt
    have hw := hleaf _ hreached he
    rw [hcontainer] at hw
    cases hw
  constructor
  · intro hopen i
    induction i using Nat.strongRecOn with
    | ind i ih =>
      intro hi
      have hne := habove i hi fun j hj => ih j hj (Nat.lt_trans hj hi)
      exact (h _ hne).mpr (hopen i hi)
  · intro hopen i hi
    exact (h _ (habove i hi fun j hj => hopen j (Nat.lt_trans hj hi))).mp (hopen i hi)

/-- Opening or closing a node matters for the nodes below it only. -/
theorem reaches_iff_of_agreeOff (clean : document.KeysClean) (hn : n ∈ document.nodes)
    (h : AgreeOff (ofSteps n.1) opened opened') (hm : m ∈ document.nodes)
    (hbelow : n.1 <+: m.1 → m.1 = n.1) : Reaches opened m ↔ Reaches opened' m := by
  refine forall_congr' fun i => forall_congr' fun hi => h _ fun he => ?_
  have htake : m.1.take i = n.1 :=
    ofSteps_injective (fun s hs => clean m hm s (List.mem_of_mem_take hs)) (clean n hn) he
  have hsame : m.1 = n.1 := hbelow (htake ▸ List.take_prefix i m.1)
  have hlength := congrArg List.length htake
  rw [List.length_take, ← hsame] at hlength
  omega

/-- Nothing below a closed node is reached. -/
theorem not_reaches_of_closed (hclosed : ofSteps n.1 ∉ opened) (hdown : n.1 <+: m.1)
    (hne : m.1 ≠ n.1) : ¬ Reaches opened m := by
  intro hreach
  obtain ⟨more, hmore⟩ := hdown
  have hlt : n.1.length < m.1.length := by
    cases more with
    | nil => exact absurd (by simpa using hmore.symm) hne
    | cons s more =>
      rw [← hmore, List.length_append, List.length_cons]
      omega
  have hopen := hreach n.1.length hlt
  rw [← hmore, List.take_left] at hopen
  exact hclosed hopen

/-- **Around a node.** What is reached outside the subtree of a node does not depend on whether the
node is open, and what is reached below it stands right behind it. -/
theorem exists_around (distinct : document.KeysDistinct) (clean : document.KeysClean)
    (hn : n ∈ reached opened document) :
    ∃ before after, (∀ m ∈ before ++ after, m ∈ document.nodes ∧ ¬ n.1 <+: m.1) ∧
      ∀ opened', AgreeOff (ofSteps n.1) opened opened' → ∃ below,
        reached opened' document = before ++ n :: (below ++ after) ∧
        (∀ m ∈ below, m ∈ document.nodes ∧ n.1 <+: m.1 ∧ m.1 ≠ n.1) ∧
        (ofSteps n.1 ∉ opened' → below = []) := by
  obtain ⟨hn, hreach⟩ := mem_reached_iff.mp hn
  obtain ⟨before, below, after, hnodes, hbelow, houtside⟩ := Value.exists_split_nodes distinct hn
  have hmem : ∀ m, m ∈ before ++ n :: (below ++ after) → m ∈ document.nodes := fun m hm =>
    hnodes ▸ hm
  refine ⟨before.filter (Reaches opened ·), after.filter (Reaches opened ·), ?_, ?_⟩
  · intro m hm
    rw [← List.filter_append] at hm
    have hm := (List.mem_filter.mp hm).1
    refine ⟨hmem m ?_, houtside m hm⟩
    rcases List.mem_append.mp hm with hm | hm <;> simp [hm]
  · intro opened' h
    refine ⟨below.filter (Reaches opened' ·), ?_, fun m hm => ?_, fun hclosed => ?_⟩
    · have hsame : ∀ m ∈ before ++ after, Reaches opened' m ↔ Reaches opened m := by
        intro m hm
        refine (reaches_iff_of_agreeOff clean hn h (hmem m ?_) fun hp => ?_).symm
        · rcases List.mem_append.mp hm with hm | hm <;> simp [hm]
        · exact absurd hp (houtside m hm)
      have hself : Reaches opened' n :=
        (reaches_iff_of_agreeOff clean hn h hn fun _ => rfl).mp hreach
      have hbefore : before.filter (Reaches opened' ·) = before.filter (Reaches opened ·) :=
        List.filter_congr fun m hm => decide_eq_decide.mpr (hsame m (List.mem_append_left _ hm))
      have hafter : after.filter (Reaches opened' ·) = after.filter (Reaches opened ·) :=
        List.filter_congr fun m hm => decide_eq_decide.mpr (hsame m (List.mem_append_right _ hm))
      rw [reached_eq_filter, hnodes, List.filter_append,
        List.filter_cons_of_pos (by simpa using hself), List.filter_append, hbefore, hafter]
    · have hm := (List.mem_filter.mp hm).1
      exact ⟨hmem m (by simp [hm]), hbelow m hm⟩
    · refine List.filter_eq_nil_iff.mpr fun m hm => ?_
      obtain ⟨hdown, hne⟩ := hbelow m hm
      simpa using not_reaches_of_closed hclosed hdown hne

/-! ## Rows -/

/-- The row of a node that stands somewhere below the one at a path. -/
def Row.IsBelow (document : Value) (limit : Option Nat) (p : String) (x : Row) : Prop :=
  ∃ steps more node, more ≠ [] ∧ ofSteps steps = p ∧
    document.get? (steps ++ more) = some node ∧ x = nodeRow limit (steps ++ more, node)

/-- In `more` there is one block of rows that `fewer` has not, right behind the row of `p`. Its rows
are those of nodes below `p`, and `fewer` has no such rows. -/
def Unfolds (document : Value) (limit : Option Nat) (p : String) (fewer more : List Row) : Prop :=
  ∃ before r block after, r.path = p ∧ fewer = before ++ r :: after ∧
    more = before ++ r :: (block ++ after) ∧ (∀ x ∈ block, x.IsBelow document limit p) ∧
    ∀ x ∈ fewer, ¬ x.IsBelow document limit p

theorem isBelow_nodeRow_iff (distinct : document.KeysDistinct) (clean : document.KeysClean)
    (hn : n ∈ document.nodes) (hm : m ∈ document.nodes) :
    (nodeRow limit m).IsBelow document limit (ofSteps n.1) ↔ n.1 <+: m.1 ∧ m.1 ≠ n.1 := by
  constructor
  · rintro ⟨steps, more, node, hne, hsteps, hget, hrow⟩
    have hnode : (steps ++ more, node) ∈ document.nodes := (Value.mem_nodes_iff distinct).mpr hget
    obtain rfl : m = (steps ++ more, node) :=
      Path.eq_of_ofSteps_eq distinct clean hm hnode (congrArg Row.path hrow)
    have hclean : ∀ s ∈ steps, s.Clean := fun s hs => clean _ hnode s (List.mem_append_left _ hs)
    obtain rfl : steps = n.1 := ofSteps_injective hclean (clean n hn) hsteps
    exact ⟨List.prefix_append _ _, by simpa using hne⟩
  · rintro ⟨⟨more, hmore⟩, hne⟩
    refine ⟨n.1, more, m.2, ?_, rfl, ?_, by rw [hmore]⟩
    · rintro rfl
      exact hne (by simpa using hmore.symm)
    · rw [hmore]
      exact (Value.mem_nodes_iff distinct).mp hm

/-- A row does not depend on whether its own path is open. -/
theorem mem_rows_of_agreeOff (clean : document.KeysClean) (h : AgreeOff p opened opened') {r : Row}
    (hr : r ∈ rows document opened limit) (hp : r.path = p) : r ∈ rows document opened' limit := by
  rw [rows_eq] at hr ⊢
  obtain ⟨n, hn, rfl⟩ := List.mem_map.mp hr
  obtain rfl : ofSteps n.1 = p := hp
  obtain ⟨hnode, hreach⟩ := mem_reached_iff.mp hn
  have hreach' : Reaches opened' n :=
    (reaches_iff_of_agreeOff clean hnode h hnode fun _ => rfl).mp hreach
  exact List.mem_map_of_mem (mem_reached_iff.mpr ⟨hnode, hreach'⟩)

/-- A set with `p` open has one block of rows more than a set without it, if `p` has a row. -/
theorem unfolds_of_agreeOff (distinct : document.KeysDistinct) (clean : document.KeysClean)
    (h : AgreeOff p opened opened') (hclosed : p ∉ opened) {r : Row}
    (hr : r ∈ rows document opened limit) (hp : r.path = p) :
    Unfolds document limit p (rows document opened limit) (rows document opened' limit) := by
  rw [rows_eq] at hr
  obtain ⟨n, hn, rfl⟩ := List.mem_map.mp hr
  obtain rfl : ofSteps n.1 = p := hp
  obtain ⟨before, after, houtside, haround⟩ := exists_around distinct clean hn
  obtain ⟨nothing, hfewer, -, hnothing⟩ := haround opened fun q _ => Iff.rfl
  obtain ⟨below, hmore, hbelow, -⟩ := haround opened' h
  rw [hnothing hclosed, List.nil_append] at hfewer
  have hnode : n ∈ document.nodes := (mem_reached_iff.mp hn).1
  refine ⟨before.map (nodeRow limit), nodeRow limit n, below.map (nodeRow limit),
    after.map (nodeRow limit), rfl, ?_, ?_, ?_, ?_⟩
  · rw [rows_eq, hfewer, List.map_append, List.map_cons]
  · rw [rows_eq, hmore, List.map_append, List.map_cons, List.map_append]
  · intro x hx
    obtain ⟨m, hm, rfl⟩ := List.mem_map.mp hx
    obtain ⟨hmnode, hdown⟩ := hbelow m hm
    exact (isBelow_nodeRow_iff distinct clean hnode hmnode).mpr hdown
  · intro x hx
    rw [rows_eq, hfewer] at hx
    obtain ⟨m, hm, rfl⟩ := List.mem_map.mp hx
    have hmnode : m ∈ document.nodes := by
      rw [← hfewer] at hm
      exact (mem_reached_iff.mp hm).1
    rw [isBelow_nodeRow_iff distinct clean hnode hmnode]
    rintro ⟨hdown, hne⟩
    rcases List.mem_append.mp hm with hm | hm
    · exact (houtside m (List.mem_append_left _ hm)).2 hdown
    · rcases List.mem_cons.mp hm with rfl | hm
      · exact hne rfl
      · exact (houtside m (List.mem_append_right _ hm)).2 hdown

/-- Opening or closing a path changes no row, if it has no row itself or that of a leaf. -/
theorem rows_eq_of_agreeOff (h : AgreeOff p opened opened')
    (hleaf : ∀ r ∈ rows document opened limit, r.path = p → r.isLeaf = true) :
    rows document opened' limit = rows document opened limit := by
  rw [rows_eq, rows_eq, reached_eq_of_agreeOff h]
  intro n hn hp
  have hrow : nodeRow limit n ∈ rows document opened limit := by
    rw [rows_eq]
    exact List.mem_map_of_mem hn
  simpa [nodeRow] using hleaf _ hrow hp

end JsonExplorer.Outline
