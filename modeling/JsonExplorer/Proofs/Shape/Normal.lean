import JsonExplorer.Proofs.Shape.Conforms
import JsonExplorer.Shape.Declaration

/-!
The form of inferred shapes. Every name that is referred to is declared, only the root and the
declarations are objects, and a union is a list of different members that stands directly in an
array (`Allowed`). Inference keeps a registry of this form in it, and gives shapes of this form
(`inferred_normal`); it makes no difference to this whether two objects claim one name.
-/

namespace JsonExplorer.Shape

/-! ## Shapes within a shape -/

/-- Where a shape can stand: by itself, or directly in an object, an array or a union. -/
inductive Place where
  | top
  | field
  | element
  | member
  deriving DecidableEq, Repr

mutual

/-- Every shape that occurs in the one at `place`, that one first, with the place of each. -/
def occurrences (place : Place) : Shape → List (Place × Shape)
  | array element => (place, array element) :: occurrences .element element
  | object fields => (place, object fields) :: fieldOccurrences fields
  | union members => (place, union members) :: memberOccurrences members
  | s => [(place, s)]

def fieldOccurrences : List (String × Shape) → List (Place × Shape)
  | [] => []
  | (_, s) :: rest => occurrences .field s ++ fieldOccurrences rest

def memberOccurrences : List Shape → List (Place × Shape)
  | [] => []
  | s :: rest => occurrences .member s ++ memberOccurrences rest

end

theorem memberOccurrences_eq (members : List Shape) :
    memberOccurrences members = members.flatMap (occurrences .member) := by
  induction members with
  | nil => rfl
  | cons s rest ih => simp only [memberOccurrences, List.flatMap_cons, ih]

/-- Neither a union nor an object nor unknown. -/
def canBeMember : Shape → Bool
  | union _ | object _ | unknown => false
  | _ => true

/-- What may stand where: a name if it is declared, an object only by itself, what is unknown only
directly in an array, and there too a union of at least two members, no two of them alike. -/
def Allowed (registry : Registry) : Place × Shape → Prop
  | (_, ref name) => name ∈ Entries.names registry
  | (place, object _) => place = .top
  | (place, unknown) => place = .element
  | (place, union members) => place = .element ∧ 2 ≤ members.length ∧ members.Nodup ∧
      ∀ m ∈ members, m.canBeMember = true
  | _ => True

instance (registry : Registry) : ∀ o : Place × Shape, Decidable (Allowed registry o)
  | (_, ref name) => inferInstanceAs (Decidable (name ∈ Entries.names registry))
  | (place, object _) => inferInstanceAs (Decidable (place = .top))
  | (place, unknown) => inferInstanceAs (Decidable (place = .element))
  | (place, union members) => inferInstanceAs (Decidable (place = .element ∧
      2 ≤ members.length ∧ members.Nodup ∧ ∀ m ∈ members, m.canBeMember = true))
  | (_, string) | (_, number) | (_, boolean) | (_, null) | (_, array _) => .isTrue trivial

/-- All that occurs in the shape may stand where it does. -/
def Normal (registry : Registry) (s : Shape) : Prop :=
  ∀ o ∈ occurrences .top s, Allowed registry o

def NormalEntries (registry : Registry) (entries : List (String × Shape)) : Prop :=
  ∀ e ∈ entries, e.2.isObject = true ∧ Normal registry e.2

/-- All declarations are objects in normal form, and refer to each other only. -/
def AllNormal (registry : Registry) : Prop := NormalEntries registry registry

instance (registry : Registry) (s : Shape) : Decidable (Normal registry s) :=
  inferInstanceAs (Decidable (∀ o ∈ occurrences .top s, Allowed registry o))

instance (registry : Registry) : Decidable (AllNormal registry) :=
  inferInstanceAs (Decidable (∀ e ∈ registry, e.2.isObject = true ∧ Normal registry e.2))

variable {registry : Registry}

theorem normalEntries_append {first rest : List (String × Shape)} :
    NormalEntries registry (first ++ rest) ↔
      NormalEntries registry first ∧ NormalEntries registry rest :=
  List.forall_mem_append

/-- Further declarations do no harm. -/
theorem Allowed.mono {o : Place × Shape} (h : Allowed registry o) {more : Registry}
    (hm : Entries.names registry ⊆ Entries.names more) : Allowed more o := by
  obtain ⟨place, s⟩ := o
  cases s with
  | ref name => exact hm h
  | _ => exact h

theorem NormalEntries.mono {entries : List (String × Shape)} (h : NormalEntries registry entries)
    {more : Registry} (hm : Entries.names registry ⊆ Entries.names more) :
    NormalEntries more entries :=
  fun e he => ⟨(h e he).1, fun o ho => ((h e he).2 o ho).mono hm⟩

/-! ## The shape of all items -/

theorem nodup_distinctShapes (seen shapes : List Shape) : (distinctShapes seen shapes).Nodup := by
  induction shapes generalizing seen with
  | nil => exact List.nodup_nil
  | cons s rest ih =>
    by_cases hs : s ∈ seen
    · simpa [distinctShapes, hs] using ih seen
    · have hnew : s ∉ distinctShapes (s :: seen) rest := fun hin =>
        (mem_distinctShapes.mp hin).2 List.mem_cons_self
      simpa [distinctShapes, hs] using ⟨hnew, ih (s :: seen)⟩

/-- What the items of an array unify to may stand directly in it. -/
theorem allowed_unify {shapes : List Shape} (hne : shapes ≠ [])
    (hmember : ∀ s ∈ shapes, s.canBeMember = true)
    (h : ∀ s ∈ shapes, ∀ place, ∀ o ∈ occurrences place s, Allowed registry o) :
    ∀ o ∈ occurrences .element (unify shapes), Allowed registry o := by
  have hmem : ∀ s, s ∈ distinctShapes [] shapes ↔ s ∈ shapes := fun s => by
    simp [mem_distinctShapes]
  obtain ⟨first, hfirst⟩ := List.exists_mem_of_ne_nil shapes hne
  have hin : first ∈ distinctShapes [] shapes := (hmem first).mpr hfirst
  unfold unify
  split
  · rename_i only heq
    exact h only ((hmem only).mp (by simp [heq])) .element
  · rename_i hmany
    -- one member would have been taken by itself
    have hlength : 2 ≤ (distinctShapes [] shapes).length := by
      match hd : distinctShapes [] shapes with
      | [] => simp [hd] at hin
      | [only] => exact absurd hd (hmany only)
      | _ :: _ :: _ => simp
    intro o ho
    rw [occurrences, List.mem_cons, memberOccurrences_eq, List.mem_flatMap] at ho
    rcases ho with rfl | ⟨s, hs, ho⟩
    · exact ⟨rfl, hlength, nodup_distinctShapes [] shapes,
        fun m hm => hmember m ((hmem m).mp hm)⟩
    · exact h s ((hmem s).mp hs) .member o ho

/-! ## Inferred shapes -/

/-- Nothing but the root is written out as an object, and only arrays hold unions. -/
theorem canBeMember_ofValue (name : String) (v : Value) :
    (ofValue name false v).canBeMember = true := by
  cases v with
  | array items => cases items <;> rfl
  | object fields => simp [ofValue, canBeMember]
  | _ => rfl

mutual

/-- The shape of a value may stand anywhere, if it is not the root, and what it declares is in
normal form, wherever the names it declares are known. -/
theorem allowed_ofValue (name : String) (isRoot : Bool) (place : Place)
    (hplace : isRoot = true → place = .top) :
    ∀ v : Value, Entries.names (declared name isRoot v) ⊆ Entries.names registry →
      (∀ o ∈ occurrences place (ofValue name isRoot v), Allowed registry o) ∧
        NormalEntries registry (declared name isRoot v)
  | .null, _ | .boolean _, _ | .number _, _ | .string _, _ | .array [], _ => by
    simp [ofValue, occurrences, Allowed, NormalEntries, declared, nestedObjects, nestedInItems]
  | .array (v :: rest), h => by
    rw [declared_array] at h ⊢
    obtain ⟨hitems, hentries⟩ := allowed_ofItems (singularName name) (v :: rest) h
    refine ⟨fun o ho => ?_, hentries⟩
    rw [ofValue, occurrences, List.mem_cons] at ho
    rcases ho with rfl | ho
    · trivial
    · refine allowed_unify (by simp [ofItems]) (fun s hs => ?_) hitems o ho
      rw [ofItems_eq_map, List.mem_map] at hs
      obtain ⟨w, -, rfl⟩ := hs
      exact canBeMember_ofValue _ w
  | .object fields, h => by
    rw [declared_object] at h ⊢
    obtain ⟨hfirst, hlast⟩ := Entries.names_append_subset.mp h
    obtain ⟨hfields, hentries⟩ := allowed_ofFields fields hfirst
    -- the same object stands at the root or in a declaration
    have hobject : Normal registry (object (ofFields fields)) := by
      intro o ho
      rw [occurrences, List.mem_cons] at ho
      rcases ho with rfl | ho
      · rfl
      · exact hfields o ho
    cases isRoot with
    | true =>
      obtain rfl := hplace rfl
      exact ⟨hobject, by simpa using hentries⟩
    | false =>
      have hname : name ∈ Entries.names registry := hlast (by simp [Entries.names])
      refine ⟨?_, normalEntries_append.mpr ⟨hentries, ?_⟩⟩
      · simpa [ofValue, occurrences, Allowed] using hname
      · simpa [NormalEntries, isObject] using hobject

theorem allowed_ofItems (name : String) :
    ∀ items : List Value, Entries.names (declaredItems name items) ⊆ Entries.names registry →
      (∀ s ∈ ofItems name items, ∀ place, ∀ o ∈ occurrences place s, Allowed registry o) ∧
        NormalEntries registry (declaredItems name items)
  | [], _ => by simp [ofItems, NormalEntries, declaredItems, nestedInItems]
  | v :: rest, h => by
    rw [declaredItems_cons] at h ⊢
    obtain ⟨hv, hr⟩ := Entries.names_append_subset.mp h
    have hfirst := fun place => allowed_ofValue name false place (by simp) v hv
    obtain ⟨hrest, hentries⟩ := allowed_ofItems name rest hr
    refine ⟨fun s hs place => ?_, normalEntries_append.mpr ⟨(hfirst .top).2, hentries⟩⟩
    rw [ofItems, List.mem_cons] at hs
    rcases hs with rfl | hs
    · exact (hfirst place).1
    · exact hrest s hs place

theorem allowed_ofFields :
    ∀ fields : List (String × Value),
      Entries.names (declaredFields fields) ⊆ Entries.names registry →
      (∀ o ∈ fieldOccurrences (ofFields fields), Allowed registry o) ∧
        NormalEntries registry (declaredFields fields)
  | [], _ => by simp [ofFields, fieldOccurrences, NormalEntries, declaredFields, nestedInFields]
  | (k, v) :: rest, h => by
    rw [declaredFields_cons] at h ⊢
    obtain ⟨hv, hr⟩ := Entries.names_append_subset.mp h
    obtain ⟨hfirst, hfirstEntries⟩ :=
      allowed_ofValue (typeName k) false .field (by simp) v hv
    obtain ⟨hrest, hentries⟩ := allowed_ofFields rest hr
    refine ⟨fun o ho => ?_, normalEntries_append.mpr ⟨hfirstEntries, hentries⟩⟩
    rw [ofFields, fieldOccurrences, List.mem_append] at ho
    exact ho.elim (hfirst o) (hrest o)

end

/-- Inference started on declarations in normal form gives a shape in normal form, and leaves all
declarations so. -/
theorem AllNormal.infer (h : AllNormal registry) (name : String) (isRoot : Bool) (v : Value) :
    Normal (Shape.infer registry name isRoot v).2 (Shape.infer registry name isRoot v).1 ∧
      AllNormal (Shape.infer registry name isRoot v).2 := by
  rw [infer_eq]
  have hknown : Entries.names registry ⊆
      Entries.names (Entries.putAll registry (declared name isRoot v)) :=
    fun _ ho => Entries.mem_names_putAll.mpr (Or.inl ho)
  have hnew : Entries.names (declared name isRoot v) ⊆
      Entries.names (Entries.putAll registry (declared name isRoot v)) :=
    fun _ ho => Entries.mem_names_putAll.mpr (Or.inr ho)
  obtain ⟨hshape, hentries⟩ := allowed_ofValue name isRoot .top (fun _ => rfl) v hnew
  refine ⟨hshape, fun e he => ?_⟩
  rcases Entries.mem_putAll he with he | he
  · exact h.mono hknown e he
  · exact hentries e he

theorem isRoot_of_isObject {name : String} {isRoot : Bool} {v : Value}
    (h : (infer registry name isRoot v).1.isObject = true) : isRoot = true := by
  rw [infer_eq] at h
  cases isRoot with
  | true => rfl
  | false =>
    have hmember := canBeMember_ofValue name v
    cases hs : ofValue name false v <;> simp_all [isObject, canBeMember]

/-- **Inferred shapes are closed and in normal form.** In the inference of any document, whatever
names its objects claim, every name that occurs is declared; every declaration is an object, and
objects occur nowhere else but as the root; unions occur only directly in arrays, with at least two
members that all differ and are neither unions nor objects nor unknown; and what is unknown occurs
only directly in arrays. Inference from any registry of this form gives a shape of this form and
leaves such a registry, and the shape is an object only if it is that of a root. -/
theorem inferred_normal :
    (∀ document : Value,
      let inference := Inference.ofValue document
      Normal inference.registry inference.root ∧ AllNormal inference.registry) ∧
    ∀ (registry : Registry) (name : String) (isRoot : Bool) (v : Value), AllNormal registry →
      let after := infer registry name isRoot v
      Normal after.2 after.1 ∧ AllNormal after.2 ∧ (after.1.isObject = true → isRoot = true) := by
  have hnone : AllNormal [] := fun e he => nomatch he
  refine ⟨fun document => hnone.infer Path.root true document, ?_⟩
  intro registry name isRoot v h after
  obtain ⟨hshape, hentries⟩ := h.infer name isRoot v
  exact ⟨hshape, hentries, isRoot_of_isObject⟩

/-- Two users of different shapes, one of them in a mixed list. -/
def accounts : Value :=
  .object
    [("user", .object [("tags", .array [])]),
      ("list", .array [.null, .array [.string "a", .number (.integer 1)],
        .object [("user", .object [("id", .number (.integer 1))])], .null])]

theorem inferred_normal_accounts :
    AllNormal [("User", object [("name", string)])] ∧
      AllNormal (infer [("User", object [("name", string)])] "Account" false accounts).2 ∧
      (infer [("User", object [("name", string)])] "Account" false accounts).2 =
        [("User", object [("id", number)]), ("ListItem", object [("user", ref "User")]),
          ("Account", object [("user", ref "User"), ("list", array (union
            [null, array (union [string, number]), ref "ListItem"]))])] := by
  have h : AllNormal [("User", object [("name", string)])] := by decide
  obtain ⟨_, hafter, _⟩ := inferred_normal.2 _ "Account" false accounts h
  exact ⟨h, hafter, by decide +kernel⟩

end JsonExplorer.Shape
