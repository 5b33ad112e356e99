import JsonExplorer.Proofs.Shape.Normal
import JsonExplorer.Proofs.Shape.Registrations
import Mathlib.Data.List.Count
import Mathlib.Logic.Relation

/-!
The declarations of an inference. No two entries of the registry have one name, but the root is
declared under a name of its own, which a nested object may have too: then that name is declared
twice (`names_declared_once_iff`). Where no two objects claim one name for different shapes, a
declaration refers to earlier ones only, and no shape is defined through itself
(`declared_before_use`).
-/

namespace JsonExplorer.Shape

/-! ## Names -/

/-- A nested object of the document has this name. -/
def NestedName (document : Value) (name : String) : Prop :=
  ∃ n ∈ document.nodes, n.1 ≠ [] ∧ n.2.kind = .object ∧ nameAt Path.root n.1 = name

instance (document : Value) (name : String) : Decidable (NestedName document name) :=
  inferInstanceAs (Decidable (∃ n ∈ document.nodes,
    n.1 ≠ [] ∧ n.2.kind = .object ∧ nameAt Path.root n.1 = name))

theorem names_registry (document : Value) : Entries.names (Inference.ofValue document).registry =
    (Entries.names (registrations Path.root true document)).eraseDups := by
  rw [registry_ofValue, Entries.names_putAll]
  simp [Entries.names]

theorem nodup_names_registry (document : Value) :
    (Entries.names (Inference.ofValue document).registry).Nodup := by
  rw [registry_ofValue]
  exact Entries.nodup_names_putAll (by simp [Entries.names]) _

theorem mem_names_registrations {document : Value} {name : String} :
    name ∈ Entries.names (registrations Path.root true document) ↔ NestedName document name := by
  rw [Entries.names, List.mem_map]
  constructor
  · rintro ⟨e, he, rfl⟩
    obtain ⟨steps, fields, hn, hnested, rfl⟩ := mem_registrations_iff.mp he
    exact ⟨_, hn, by simpa using hnested, rfl, rfl⟩
  · rintro ⟨⟨steps, v⟩, hn, hne, hkind, rfl⟩
    cases v with
    | object fields =>
      exact ⟨_, mem_registrations_iff.mpr ⟨steps, fields, hn, by simpa using hne, rfl⟩, rfl⟩
    | _ => simp [Value.kind] at hkind

theorem mem_names_registry {document : Value} {name : String} :
    name ∈ Entries.names (Inference.ofValue document).registry ↔ NestedName document name := by
  rw [names_registry, List.mem_eraseDups, mem_names_registrations]

/-- **How often a name is declared.** Once if a nested object has it, and once more if it is the
name given to the root. So each name is declared once exactly if no nested object has the name of
the root. -/
theorem names_declared_once_iff (document : Value) (rootName : String) :
    let names := Entries.names ((Inference.ofValue document).declared rootName)
    (∀ name, names.count name =
      (if NestedName document name then 1 else 0) + (if name = rootName then 1 else 0)) ∧
    (names.Nodup ↔ ¬ NestedName document rootName) := by
  intro names
  have hnames : names = Entries.names (Inference.ofValue document).registry ++ [rootName] := by
    simp only [names, Inference.declared, Entries.names_append]
    rfl
  have hnodup := nodup_names_registry document
  refine ⟨fun name => ?_, ?_⟩
  · rw [hnames, List.count_append, hnodup.count, List.count_singleton]
    simp only [mem_names_registry, beq_iff_eq, @eq_comm _ name rootName]
  · rw [hnames, List.nodup_append, ← mem_names_registry]
    constructor
    · rintro ⟨-, -, hne⟩ hm
      exact hne rootName hm rootName (List.mem_singleton.mpr rfl) rfl
    · intro hm
      refine ⟨hnodup, List.nodup_singleton _, fun a ha b hb he => ?_⟩
      rw [List.mem_singleton.mp hb] at he
      exact hm (he ▸ ha)

/-- A list of objects under a key whose singular is the name of the root. -/
def rootsDocument : Value :=
  .object [("roots", .array [.object [("a", .number (.integer 1))]])]

theorem rootsDocument_declares_root_twice :
    (Inference.ofValue rootsDocument).render Path.root =
        "interface Root \x7b\n  a: number;\n\x7d\n\ninterface Root \x7b\n  roots: Root[];\n\x7d" ∧
      ¬ (Entries.names ((Inference.ofValue rootsDocument).declared Path.root)).Nodup := by
  decide +kernel

/-! ## Order -/

/-- The name occurs in the shape. -/
def Refers (s : Shape) (name : String) : Prop := ∃ place, (place, ref name) ∈ occurrences .top s

/-- The shape declared under the first name refers to the second. -/
def DependsOn (registry : Registry) (name other : String) : Prop :=
  ∃ s, Entries.get? registry name = some s ∧ Refers s other

/-- Right in front of each object stand the objects in it. -/
def InnerFirst (objects : List (String × List (String × Value))) : Prop :=
  ∀ before o after, objects = before ++ o :: after → nestedInFields o.2 <:+ before

theorem InnerFirst.extend {first rest : List (String × List (String × Value))}
    (hfirst : InnerFirst first) (hrest : ∀ before o after, rest = before ++ o :: after →
      nestedInFields o.2 <:+ first ++ before) : InnerFirst (first ++ rest) := by
  intro before o after h
  rcases List.append_eq_append_iff.mp h with ⟨more, rfl, hmore⟩ | ⟨more, rfl, hmore⟩
  · exact hrest more o after hmore
  · cases more with
    | nil => simpa using hrest [] o after hmore.symm
    | cons o' more =>
      obtain ⟨rfl, rfl⟩ := List.cons.inj hmore
      exact hfirst before o more rfl

theorem InnerFirst.flatMap {α : Type} {f : α → List (String × List (String × Value))} {l : List α}
    (h : ∀ x ∈ l, InnerFirst (f x)) : InnerFirst (l.flatMap f) := by
  induction l with
  | nil => intro before o after he; simp at he
  | cons x rest ih =>
    obtain ⟨hx, hrest⟩ := List.forall_mem_cons.mp h
    rw [List.flatMap_cons]
    exact hx.extend fun before o after he =>
      (ih hrest before o after he).trans (List.suffix_append _ _)

theorem innerFirst_nestedObjects (name : String) (isRoot : Bool) (v : Value) :
    InnerFirst (nestedObjects name isRoot v) := by
  induction v using Value.inductionOnChildren generalizing name isRoot with
  | node v ih =>
    have hchildren := InnerFirst.flatMap fun c hc => ih c hc (nameAfter name c.1) false
    rw [nestedObjects_eq]
    refine hchildren.extend fun before o after he => ?_
    -- only an object comes after its children, and they are the objects of its fields
    cases v with
    | object fields =>
      cases isRoot with
      | true => simp [ownObject] at he
      | false =>
        obtain ⟨rfl, rfl, rfl⟩ : before = [] ∧ o = (name, fields) ∧ after = [] := by
          simpa [ownObject, List.singleton_eq_append_iff, List.append_eq_nil_iff] using he
        simp [nestedInFields_eq, Value.children, List.flatMap_map, nameAfter]
    | _ => simp [ownObject] at he

/-- An object refers to objects in it only. -/
theorem mem_names_of_refers {fields : List (String × Value)} {name : String}
    (h : Refers (object (ofFields fields)) name) :
    name ∈ Entries.names (nestedInFields fields) := by
  obtain ⟨place, h⟩ := h
  rw [occurrences, List.mem_cons] at h
  have hfield : (place, ref name) ∈ fieldOccurrences (ofFields fields) :=
    h.resolve_left (by simp)
  have hdeclared : name ∈ Entries.names (declaredFields fields) :=
    (allowed_ofFields fields (List.Subset.refl _)).1 _ hfield
  simpa [declaredFields, Entries.names, entryOf, Function.comp_def] using hdeclared

/-- What stands in front of a first occurrence stays in front of it when repeats are dropped. -/
theorem exists_split_of_eraseDups {l before after : List String} {s : String}
    (h : l.eraseDups = before ++ s :: after) :
    ∃ first rest, l = first ++ s :: rest ∧ first ⊆ before := by
  have hs : s ∈ l := List.mem_eraseDups.mp (by simp [h])
  obtain ⟨first, rest, rfl, hfirst⟩ := List.eq_append_cons_of_mem hs
  have hhead : (s :: rest).removeAll first = s :: rest.removeAll first := by
    simp [List.removeAll, hfirst]
  rw [List.eraseDups_append, hhead, List.eraseDups_cons] at h
  -- `s` stands only once on the left, so both sides are split at the same place
  have hbefore : first.eraseDups = before :=
    ((List.append_cons_inj_of_notMem (by simpa using hfirst) (by simp)).mp h).1
  exact ⟨first, rest, rfl, fun t ht => hbefore ▸ List.mem_eraseDups.mpr ht⟩

/-- Where names agree, a declaration in the registry refers to earlier ones only. -/
theorem mem_names_before_of_refers {document : Value} (h : NamesAgree document)
    {before after : Registry} {e : String × Shape}
    (hsplit : (Inference.ofValue document).registry = before ++ e :: after) {name : String}
    (hr : Refers e.2 name) : name ∈ Entries.names before := by
  have hnodup := nodup_names_registry document
  have hnames : (Entries.names (nestedObjects Path.root true document)).eraseDups =
      Entries.names before ++ e.1 :: Entries.names after := by
    have hdeclared : Entries.names (declared Path.root true document) =
        Entries.names (nestedObjects Path.root true document) := by
      simp [declared, Entries.names, entryOf]
    rw [← hdeclared, ← registrations_eq, ← names_registry, hsplit, Entries.names_append]
    rfl
  obtain ⟨first, rest, hl, hfirst⟩ := exists_split_of_eraseDups hnames
  -- `o` is the first object of the entry's name
  obtain ⟨inner, others, hobjects, rfl, hothers⟩ := List.map_eq_append_iff.mp hl
  obtain ⟨o, later, rfl, ho, rfl⟩ := List.map_eq_cons_iff.mp hothers
  have hshape : e.2 = object (ofFields o.2) := by
    have hmem : o ∈ nestedObjects Path.root true document := by simp [hobjects]
    have hget := registers_inferred h o hmem
    have he : Entries.get? (Inference.ofValue document).registry e.1 = some e.2 :=
      (Entries.get?_eq_some_iff hnodup).mpr (by simp [hsplit])
    rw [ho, he] at hget
    exact Option.some.inj hget
  rw [hshape] at hr
  have hinner : nestedInFields o.2 <:+ inner :=
    innerFirst_nestedObjects Path.root true document inner o later hobjects
  exact hfirst ((List.map_subset _ hinner.subset) (mem_names_of_refers hr))

/-- The root refers to declared names only. -/
theorem mem_names_registry_of_refers {document : Value} {name : String}
    (hr : Refers (Inference.ofValue document).root name) :
    name ∈ Entries.names (Inference.ofValue document).registry := by
  obtain ⟨place, hr⟩ := hr
  have hnone : AllNormal [] := fun e he => nomatch he
  exact (hnone.infer Path.root true document).1 _ hr

/-- Where names agree, every declaration refers to earlier ones only, that of the root included. -/
theorem mem_before_of_refers {document : Value} (h : NamesAgree document) {rootName : String}
    {before after : List (String × Shape)} {e : String × Shape}
    (hsplit : (Inference.ofValue document).declared rootName = before ++ e :: after)
    {name : String} (hr : Refers e.2 name) :
    ∃ s, Entries.get? (Inference.ofValue document).registry name = some s ∧ (name, s) ∈ before := by
  rw [Inference.declared] at hsplit
  obtain ⟨hname, hbefore⟩ : name ∈ Entries.names before ∧
      before ⊆ (Inference.ofValue document).registry := by
    rcases List.eq_nil_or_concat after with rfl | ⟨more, last, rfl⟩
    · -- `e` is the root, and the whole registry stands in front of it
      obtain ⟨rfl, rfl⟩ := List.append_singleton_inj.mp hsplit
      exact ⟨mem_names_registry_of_refers hr, List.Subset.refl _⟩
    · rw [List.concat_eq_append, ← List.cons_append, ← List.append_assoc,
        List.append_singleton_inj] at hsplit
      refine ⟨mem_names_before_of_refers h hsplit.1 hr, ?_⟩
      rw [hsplit.1]
      exact List.subset_append_left _ _
  obtain ⟨d, hd, rfl⟩ := List.mem_map.mp hname
  have hget := (Entries.get?_eq_some_iff (nodup_names_registry document)).mpr (hbefore hd)
  exact ⟨d.2, hget, hd⟩

/-- Dependence leads to earlier places in the registry. -/
theorem idxOf_lt_of_dependsOn {document : Value} (h : NamesAgree document) {name other : String}
    (hd : DependsOn (Inference.ofValue document).registry name other) :
    (Entries.names (Inference.ofValue document).registry).idxOf other <
      (Entries.names (Inference.ofValue document).registry).idxOf name := by
  obtain ⟨s, hget, hr⟩ := hd
  have hnodup := nodup_names_registry document
  have hmem := (Entries.get?_eq_some_iff hnodup).mp hget
  obtain ⟨before, after, hsplit⟩ := List.append_of_mem hmem
  have hother := mem_names_before_of_refers h hsplit hr
  have hnames : Entries.names (Inference.ofValue document).registry =
      Entries.names before ++ name :: Entries.names after := by
    rw [hsplit, Entries.names_append]
    rfl
  have hname : name ∉ Entries.names before := by
    rw [hnames] at hnodup
    exact fun hm => (List.nodup_append.mp hnodup).2.2 name hm name List.mem_cons_self rfl
  rw [hnames, List.idxOf_append_of_mem hother, List.idxOf_append_of_notMem hname,
    List.idxOf_cons_self]
  exact List.idxOf_lt_length_of_mem hother

/-- Each of the texts occurs in them joined together. -/
theorem exists_intercalate (separator : String) (before : List String) (text : String)
    (after : List String) : ∃ head tail,
      separator.intercalate (before ++ text :: after) = head ++ text ++ tail := by
  obtain ⟨tail, htail⟩ : ∃ tail, separator.intercalate (text :: after) = text ++ tail := by
    cases after with
    | nil => exact ⟨"", by simp⟩
    | cons next more =>
      exact ⟨separator ++ separator.intercalate (next :: more), by
        rw [String.intercalate_cons_cons, String.append_assoc]⟩
  cases before with
  | nil => exact ⟨"", tail, by simpa using htail⟩
  | cons first more =>
    refine ⟨separator.intercalate (first :: more) ++ separator, tail, ?_⟩
    rw [String.intercalate_append_of_ne_nil (by simp) (by simp), htail]
    simp only [String.append_assoc]

/-- Of two texts the earlier one occurs in front of the later one in them joined together. -/
theorem exists_intercalate_two (separator : String) (before middle after : List String)
    (text later : String) : ∃ head between tail,
      separator.intercalate (before ++ text :: middle ++ later :: after) =
        head ++ text ++ between ++ later ++ tail := by
  obtain ⟨head, between, hfirst⟩ := exists_intercalate separator before text middle
  obtain ⟨start, tail, hlast⟩ := exists_intercalate separator [] later after
  refine ⟨head, between ++ separator ++ start, tail, ?_⟩
  rw [List.nil_append] at hlast
  rw [String.intercalate_append_of_ne_nil (by simp) (by simp), hfirst, hlast]
  simp only [String.append_assoc]

/-- **Declarations come before their uses.** If no two nested objects of the document claim one
name for different shapes, a name that occurs in an entry of the registry is that of an earlier
entry, and of no other. So no shape is defined through itself, in however many steps, and of the
declarations written out, the root's included, each comes behind all those it refers to. -/
theorem declared_before_use (document : Value) (h : NamesAgree document) :
    let inference := Inference.ofValue document
    (∀ before e after, inference.registry = before ++ e :: after → ∀ name, Refers e.2 name →
      name ∈ Entries.names before ∧ name ∉ Entries.names (e :: after)) ∧
    (∀ name, ¬ Relation.TransGen (DependsOn inference.registry) name name) ∧
    ∀ rootName before e after, inference.declared rootName = before ++ e :: after →
      ∀ name, Refers e.2 name → ∃ s, Entries.get? inference.registry name = some s ∧
        (name, s) ∈ before ∧ ∃ head between tail, inference.render rootName =
          head ++ s.declaration name ++ between ++ e.2.declaration e.1 ++ tail := by
  intro inference
  refine ⟨fun before e after hsplit name hr => ?_, fun name hcycle => ?_,
    fun rootName before e after hsplit name hr => ?_⟩
  · have hbefore := mem_names_before_of_refers h hsplit hr
    have hnodup : (Entries.names before ++ Entries.names (e :: after)).Nodup := by
      rw [← Entries.names_append, ← hsplit]
      exact nodup_names_registry document
    exact ⟨hbefore, fun hm => (List.nodup_append.mp hnodup).2.2 name hbefore name hm rfl⟩
  · have hearlier : ∀ other, Relation.TransGen (DependsOn inference.registry) name other →
        (Entries.names inference.registry).idxOf other <
          (Entries.names inference.registry).idxOf name := by
      intro other hd
      induction hd with
      | single hd => exact idxOf_lt_of_dependsOn h hd
      | tail _ hd ih => exact Nat.lt_trans (idxOf_lt_of_dependsOn h hd) ih
    exact Nat.lt_irrefl _ (hearlier name hcycle)
  · obtain ⟨s, hget, hmem⟩ := mem_before_of_refers h hsplit hr
    refine ⟨s, hget, hmem, ?_⟩
    obtain ⟨first, rest, rfl⟩ := List.append_of_mem hmem
    rw [Inference.render, hsplit, List.map_append, List.map_append, List.map_cons, List.map_cons]
    exact exists_intercalate_two _ _ _ _ _ _

theorem declared_before_use_directory :
    NamesAgree directory ∧
      (Inference.ofValue directory).registry =
        [("User", object [("id", number), ("tags", array string)]),
          ("MixedItem", object [("user", ref "User")])] ∧
      Refers (object [("user", ref "User")]) "User" ∧
      "User" ∈ Entries.names [("User", object [("id", number), ("tags", array string)])] ∧
      ¬ Relation.TransGen (DependsOn (Inference.ofValue directory).registry) "User" "User" := by
  have hagree : NamesAgree directory := by decide +kernel
  have hregistry : (Inference.ofValue directory).registry =
      [("User", object [("id", number), ("tags", array string)]),
        ("MixedItem", object [("user", ref "User")])] := by decide +kernel
  have hrefers : Refers (object [("user", ref "User")]) "User" :=
    ⟨.field, by simp [occurrences, fieldOccurrences]⟩
  obtain ⟨hbefore, hacyclic, _⟩ := declared_before_use directory hagree
  exact ⟨hagree, hregistry, hrefers, (hbefore [_] _ [] hregistry "User" hrefers).1,
    hacyclic "User"⟩

end JsonExplorer.Shape
