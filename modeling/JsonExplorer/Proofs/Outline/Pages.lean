import JsonExplorer.Outline
import JsonExplorer.Proofs.Path.RoundTrip

/-!
Children page by page. However many children a page holds, the pages up to the first empty one show
the children of a node one after the other, once each (`paged_iff`). This goes for every path that
is accepted, also for one that no row has; and one more step behind such a path leads to the child
that is listed under it (`pages_show_children`).
-/

namespace JsonExplorer.Outline

section

variable (document : Value) (path : String) (count : Nat) (limit : Option Nat)

/-- What is shown by page after page of the children, from the child at `offset` up to the first
page that is empty. -/
inductive Paged : Nat → List Child → Prop
  | done {offset : Nat} : page? document path offset count limit = some [] → Paged offset []
  | more {offset : Nat} {listed rest : List Child} :
      page? document path offset count limit = some listed → listed ≠ [] →
      Paged (offset + count) rest → Paged offset (listed ++ rest)

end

variable {document node : Value} {path : String} {count : Nat} {limit : Option Nat}

theorem page?_eq (hnode : Path.resolve document path = some node) (offset : Nat) :
    page? document path offset count limit =
      some (((node.children.map (child limit path)).drop offset).take count) := by
  rw [page?, hnode, Option.map_some, List.map_take, List.map_drop]

/-- The children that are left are shown, one page of them first. -/
theorem paged_drop (hnode : Path.resolve document path = some node) (hcount : 0 < count)
    (offset : Nat) :
    Paged document path count limit offset
      ((node.children.map (child limit path)).drop offset) := by
  have hpage : page? document path offset count limit = some (List.take count _) :=
    page?_eq hnode offset
  by_cases hlt : offset < node.children.length
  · rw [← List.take_append_drop count (List.drop offset _), List.drop_drop]
    refine .more hpage ?_ (paged_drop hnode hcount (offset + count))
    rw [Ne, List.take_eq_nil_iff, List.drop_eq_nil_iff, List.length_map]
    omega
  · have hnil : (node.children.map (child limit path)).drop offset = [] := by
      rw [List.drop_eq_nil_iff, List.length_map]
      omega
    rw [hnil, List.take_nil] at hpage
    rw [hnil]
    exact .done hpage
termination_by node.children.length - offset

theorem Paged.eq_drop (hnode : Path.resolve document path = some node) (hcount : 0 < count)
    {offset : Nat} {shown : List Child} (h : Paged document path count limit offset shown) :
    shown = (node.children.map (child limit path)).drop offset := by
  induction h with
  | done hpage =>
    rw [page?_eq hnode, Option.some_inj, List.take_eq_nil_iff] at hpage
    exact (hpage.resolve_left (Nat.ne_of_gt hcount)).symm
  | more hpage _ _ ih =>
    rw [page?_eq hnode, Option.some_inj] at hpage
    rw [ih, ← hpage, ← List.drop_drop, List.take_append_drop]

/-- Paging shows the children of the node, and nothing else. -/
theorem paged_iff (hnode : Path.resolve document path = some node) (hcount : 0 < count)
    {shown : List Child} :
    Paged document path count limit 0 shown ↔ shown = node.children.map (child limit path) := by
  constructor
  · exact fun h => h.eq_drop hnode hcount
  · rintro rfl
    exact paged_drop hnode hcount 0

/-- One more step behind a path that is accepted leads to the child at that step. -/
theorem resolve_child (distinct : document.KeysDistinct) (short : document.ArraysShort)
    (hnode : Path.resolve document path = some node) {c : Step × Value} (hc : c ∈ node.children)
    (hclean : c.1.Clean) : Path.resolve document (Path.child path c.1) = some c.2 := by
  obtain ⟨steps, hsteps, hget⟩ := Option.bind_eq_some_iff.mp hnode
  have hchild : document.get? (steps ++ [c.1]) = some c.2 := by
    have hstep := (Value.mem_children_iff (distinct.of_get? hget)).mp hc
    rw [Value.get?_append, hget]
    simp [Value.get?, hstep]
  have hfits : ∀ i, c.1 = .index i → i < UInt64.size := fun i hi =>
    Path.index_lt_of_get? distinct short hchild (by simp [hi])
  rw [Path.resolve, Path.steps?_child hsteps hclean hfits]
  exact hchild

/-- **Paging loses nothing, and what it shows can be opened.** Under any path that leads to a node,
pages of any size show the node's children in their order, once each, and come to an end. If the
step to a child is clean, the path it is listed under leads to that child, and as many children are
shown there as its row says. -/
theorem pages_show_children (document : Value) (distinct : document.KeysDistinct)
    (short : document.ArraysShort) (path : String) (node : Value)
    (hnode : Path.resolve document path = some node) (limit : Option Nat) (count : Nat)
    (hcount : 0 < count) :
    (∀ shown, Paged document path count limit 0 shown ↔
      shown = node.children.map (child limit path)) ∧
    ∀ c ∈ node.children, c.1.Clean →
      Path.resolve document (child limit path c).path = some c.2 ∧
      (∃ below, Paged document (child limit path c).path count limit 0 below) ∧
      ∀ below, Paged document (child limit path c).path count limit 0 below →
        below.length = (child limit path c).childCount := by
  refine ⟨fun shown => paged_iff hnode hcount, fun c hc hclean => ?_⟩
  have hopened : Path.resolve document (child limit path c).path = some c.2 :=
    resolve_child distinct short hnode hc hclean
  refine ⟨hopened, ⟨_, (paged_iff hopened hcount).mpr rfl⟩, fun below hbelow => ?_⟩
  rw [(paged_iff hopened hcount).mp hbelow, List.length_map, Value.length_children]
  rfl

/-- A list under a key that opens a number, reached by an index with a zero in front. -/
theorem pages_show_children_behind_bracket :
    let items := .array [.null, .array [.null, .null, .null], .boolean true]
    let document := .array [.null, .object [("k[1", items)]]
    document.KeysDistinct ∧ document.ArraysShort ∧
      Path.resolve document "Root[01].k[1" = some items ∧
      (∃ shown, Paged document "Root[01].k[1" 2 none 0 shown ∧ shown.map (·.path) =
        ["Root[01].k[1[0]", "Root[01].k[1[1]", "Root[01].k[1[2]"]) ∧
      Path.resolve document "Root[01].k[1[1]" = some (.array [.null, .null, .null]) ∧
      ∃ below, Paged document "Root[01].k[1[1]" 2 none 0 below ∧ below.length = 3 := by
  intro items document
  have distinct : document.KeysDistinct := by
    simp [document, items, Value.KeysDistinct, Value.ItemsKeysDistinct, Value.FieldsKeysDistinct,
      Entries.names]
  have short : document.ArraysShort := by decide +kernel
  have hnode : Path.resolve document "Root[01].k[1" = some items := by rfl
  obtain ⟨hshown, hopened⟩ := pages_show_children document distinct short "Root[01].k[1" items hnode
    none 2 (by decide)
  obtain ⟨hchild, ⟨below, hbelow⟩, hlength⟩ :=
    hopened (.index 1, .array [.null, .null, .null]) (by simp [items, Value.children]) trivial
  exact ⟨distinct, short, hnode, ⟨_, (hshown _).mpr rfl, by decide +kernel⟩, hchild,
    below, hbelow, hlength below hbelow⟩

end JsonExplorer.Outline
