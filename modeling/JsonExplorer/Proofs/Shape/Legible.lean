import JsonExplorer.Proofs.Shape.Declarations

/-!
Shapes whose text can be read. Keys and names are words, no name is the text of another shape, and a
union has at least two members, none of them a union (`Legible`). The names made on the way down a
document never begin with a small letter (`nameWord_nameAt`), so whatever is inferred of a document
whose keys are words is of this kind (`legible_inferred`).
-/

namespace JsonExplorer

namespace Shape

/-! ## Words -/

/-- Letters and digits of ASCII, and the underscore. -/
def isWordChar (c : Char) : Bool := c.isAlphanum || c == '_'

def Word (s : String) : Prop := s ≠ "" ∧ s.toList.all isWordChar = true

instance (s : String) : Decidable (Word s) :=
  inferInstanceAs (Decidable (s ≠ "" ∧ s.toList.all isWordChar = true))

theorem Word.isWordChar_of_mem {s : String} (h : Word s) : ∀ c ∈ s.toList, isWordChar c = true :=
  List.all_eq_true.mp h.2

theorem Word.toList_ne_nil {s : String} (h : Word s) : s.toList ≠ [] := by
  simpa using h.1

/-- The texts of the shapes that are not made of others. -/
def keywords : List String := ["string", "number", "boolean", "null", "unknown"]

/-- A word that stands for nothing else. -/
def NameWord (s : String) : Prop := Word s ∧ s ∉ keywords

instance (s : String) : Decidable (NameWord s) :=
  inferInstanceAs (Decidable (Word s ∧ s ∉ keywords))

def StepWord : Step → Prop
  | .key key => Word key
  | .index _ => True

instance : (s : Step) → Decidable (StepWord s)
  | .key key => inferInstanceAs (Decidable (Word key))
  | .index _ => isTrue trivial

/-! ## Names -/

theorem upperChar_of_isWordChar {c : Char} (h : isWordChar c = true) :
    Text.upperChar c = [c.toUpper] ∧ isWordChar c.toUpper = true ∧ c.toUpper.isLower = false := by
  have hascii : ∀ n < 128, isWordChar (Char.ofNat n) = true →
      Text.upperChar (Char.ofNat n) = [(Char.ofNat n).toUpper] ∧
        isWordChar (Char.ofNat n).toUpper = true ∧ (Char.ofNat n).toUpper.isLower = false := by
    decide +kernel
  have hc : c.toNat < 128 := by
    have hranges : (decide (65 ≤ c.val ∧ c.val ≤ 90) ||
        (decide (97 ≤ c.val) && decide (c.val ≤ 122)) ||
        (decide (48 ≤ c.val) && decide (c.val ≤ 57)) || c == '_') = true := h
    simp only [Bool.or_eq_true, Bool.and_eq_true, decide_eq_true_eq, beq_iff_eq,
      UInt32.le_iff_toNat_le] at hranges
    change ((65 ≤ c.toNat ∧ c.toNat ≤ 90 ∨ 97 ≤ c.toNat ∧ c.toNat ≤ 122) ∨
      48 ≤ c.toNat ∧ c.toNat ≤ 57) ∨ c = '_' at hranges
    rcases hranges with hrange | rfl
    · omega
    · decide
  have hofNat := hascii c.toNat hc
  rw [Char.ofNat_toNat] at hofNat
  exact hofNat h

/-- Characters of a word that does not begin with a small letter. -/
def NameChars (cs : List Char) : Prop :=
  (∀ c ∈ cs, isWordChar c = true) ∧ ∃ c, cs.head? = some c ∧ c.isLower = false

theorem NameChars.append {cs more : List Char} (h : NameChars cs)
    (hmore : ∀ c ∈ more, isWordChar c = true) : NameChars (cs ++ more) := by
  obtain ⟨hcs, c, hc, hlower⟩ := h
  exact ⟨List.forall_mem_append.mpr ⟨hcs, hmore⟩, c, by simp [hc], hlower⟩

theorem NameChars.nameWord {cs : List Char} (h : NameChars cs) : NameWord (String.ofList cs) := by
  obtain ⟨hcs, c, hc, hlower⟩ := h
  refine ⟨⟨fun he => ?_, by simpa using hcs⟩, fun hm => ?_⟩
  · obtain rfl : cs = [] := by simpa using congrArg String.toList he
    simp at hc
  · have hkeyword : ∀ k ∈ keywords, k.toList.head?.all Char.isLower = true := by decide
    have hsmall := hkeyword _ hm
    rw [String.toList_ofList, hc, Option.all_some, hlower] at hsmall
    cases hsmall

theorem nameChars_capitalizeChars {cs : List Char} (hne : cs ≠ [])
    (h : ∀ c ∈ cs, isWordChar c = true) : NameChars (Text.capitalizeChars cs) := by
  cases cs with
  | nil => exact absurd rfl hne
  | cons c rest =>
    obtain ⟨hc, hrest⟩ := List.forall_mem_cons.mp h
    obtain ⟨hupper, hword, hlower⟩ := upperChar_of_isWordChar hc
    rw [Text.capitalizeChars, hupper]
    exact ⟨List.forall_mem_cons.mpr ⟨hword, hrest⟩, c.toUpper, rfl, hlower⟩

/-- What a key is called begins with no small letter. -/
theorem Word.nameWord_typeName {key : String} (h : Word key) : NameWord (typeName key) := by
  rw [typeName, if_neg h.1, Text.capitalize]
  exact (nameChars_capitalizeChars h.toList_ne_nil h.isWordChar_of_mem).nameWord

/-- Nor does what the items of an array are called. -/
theorem Word.nameWord_singularName {name : String} (h : Word name) :
    NameWord (singularName name) := by
  have hitem : ∀ c ∈ "Item".toList, isWordChar c = true := List.all_eq_true.mp (by decide)
  have hcapital := nameChars_capitalizeChars h.toList_ne_nil h.isWordChar_of_mem
  refine NameChars.nameWord ?_
  unfold singularChars
  split
  · split
    · exact hcapital.append hitem
    · rename_i hlength
      -- something is left in front of the `s`
      refine nameChars_capitalizeChars (fun hnil => ?_) fun c hc =>
        h.isWordChar_of_mem c (List.dropLast_subset _ hc)
      have hzero := congrArg List.length hnil
      have hpos := List.length_pos_of_ne_nil h.toList_ne_nil
      simp only [List.length_dropLast, List.length_nil] at hzero
      omega
  · exact hcapital.append hitem

theorem Word.nameWord_nameAfter {name : String} (h : Word name) {s : Step} (hs : StepWord s) :
    NameWord (nameAfter name s) := by
  cases s with
  | key key => exact Word.nameWord_typeName hs
  | index i => exact h.nameWord_singularName

theorem Word.nameAt {name : String} (h : Word name) {steps : List Step}
    (hs : ∀ s ∈ steps, StepWord s) : Word (nameAt name steps) := by
  induction steps generalizing name with
  | nil => exact h
  | cons s rest ih =>
    obtain ⟨hfirst, hrest⟩ := List.forall_mem_cons.mp hs
    exact ih (h.nameWord_nameAfter hfirst).1 hrest

/-- Every value but the root has a name that stands for nothing else. -/
theorem nameWord_nameAt {steps : List Step} (hne : steps ≠ []) (hs : ∀ s ∈ steps, StepWord s) :
    NameWord (nameAt Path.root steps) := by
  have hroot : Word Path.root := by decide
  obtain ⟨init, last, rfl⟩ := (List.eq_nil_or_concat steps).resolve_left hne
  rw [List.concat_eq_append] at hs ⊢
  obtain ⟨hinit, hlast⟩ := List.forall_mem_append.mp hs
  rw [nameAt_append_singleton]
  exact (hroot.nameAt hinit).nameWord_nameAfter (hlast last (List.mem_singleton.mpr rfl))

/-! ## Legible shapes -/

/-- What is asked of a shape itself, whatever is asked of those in it. -/
def Tidy : Shape → Prop
  | ref name => NameWord name
  | object fields => ∀ f ∈ fields, Word f.1
  | union members => 2 ≤ members.length ∧ ∀ m ∈ members, m.isUnion = false
  | _ => True

instance : ∀ s : Shape, Decidable (Tidy s)
  | ref name => inferInstanceAs (Decidable (NameWord name))
  | object fields => inferInstanceAs (Decidable (∀ f ∈ fields, Word f.1))
  | union members =>
    inferInstanceAs (Decidable (2 ≤ members.length ∧ ∀ m ∈ members, m.isUnion = false))
  | string | number | boolean | null | unknown | array _ => .isTrue trivial

/-- Keys and names are words, no name is a keyword, and each union has at least two members, none of
them a union; objects, arrays and unions may hold each other otherwise. -/
def Legible (s : Shape) : Prop := ∀ o ∈ occurrences .top s, Tidy o.2

instance (s : Shape) : Decidable (Legible s) :=
  inferInstanceAs (Decidable (∀ o ∈ occurrences .top s, Tidy o.2))

/-- It does not matter where a shape stands. -/
theorem legible_iff (place : Place) (s : Shape) :
    Legible s ↔ ∀ o ∈ occurrences place s, Tidy o.2 := by
  cases s <;> simp [Legible, occurrences]

theorem legible_array_iff {element : Shape} : Legible (array element) ↔ Legible element := by
  rw [legible_iff .element element]
  simp [Legible, occurrences, Tidy]

theorem legible_ref_iff {name : String} : Legible (ref name) ↔ NameWord name := by
  simp [Legible, occurrences, Tidy]

theorem legible_union_iff {members : List Shape} : Legible (union members) ↔
    2 ≤ members.length ∧ ∀ m ∈ members, m.isUnion = false ∧ Legible m := by
  have hmembers : (∀ o ∈ memberOccurrences members, Tidy o.2) ↔ ∀ m ∈ members, Legible m := by
    simp only [memberOccurrences_eq, List.forall_mem_flatMap, legible_iff .member]
  rw [Legible, occurrences, List.forall_mem_cons, hmembers, Tidy, and_assoc, ← forall₂_and]

theorem fieldOccurrences_eq (fields : List (String × Shape)) :
    fieldOccurrences fields = fields.flatMap fun f => occurrences .field f.2 := by
  induction fields with
  | nil => rfl
  | cons f rest ih => simp only [fieldOccurrences, List.flatMap_cons, ih]

theorem legible_object_iff {fields : List (String × Shape)} : Legible (object fields) ↔
    ∀ f ∈ fields, Word f.1 ∧ Legible f.2 := by
  have hfields : (∀ o ∈ fieldOccurrences fields, Tidy o.2) ↔ ∀ f ∈ fields, Legible f.2 := by
    simp only [fieldOccurrences_eq, List.forall_mem_flatMap, legible_iff .field]
  rw [Legible, occurrences, List.forall_mem_cons, hfields, Tidy, ← forall₂_and]

end Shape

/-- The root and all declarations are legible, and the latter have words for names. -/
def Inference.Legible (inference : Inference) : Prop :=
  inference.root.Legible ∧ ∀ e ∈ inference.registry, Shape.Word e.1 ∧ e.2.Legible

instance (inference : Inference) : Decidable inference.Legible :=
  inferInstanceAs (Decidable (inference.root.Legible ∧
    ∀ e ∈ inference.registry, Shape.Word e.1 ∧ e.2.Legible))

/-- Every key of the document is a word. -/
def Value.KeysWords (v : Value) : Prop := ∀ n ∈ v.nodes, ∀ s ∈ n.1, Shape.StepWord s

instance (v : Value) : Decidable v.KeysWords :=
  inferInstanceAs (Decidable (∀ n ∈ v.nodes, ∀ s ∈ n.1, Shape.StepWord s))

namespace Shape

/-! ## Inferred shapes -/

variable {document : Value}

theorem NestedName.nameWord (hkeys : document.KeysWords) {name : String}
    (h : NestedName document name) : NameWord name := by
  obtain ⟨n, hn, hne, -, rfl⟩ := h
  exact nameWord_nameAt hne (hkeys n hn)

theorem names_ofFields (fields : List (String × Value)) :
    (ofFields fields).map (·.1) = fields.map (·.1) := by
  induction fields with
  | nil => rfl
  | cons f rest ih => simp only [ofFields, List.map_cons, ih]

/-- The keys of an object of the document are words. -/
theorem word_of_mem_ofFields (hkeys : document.KeysWords) {steps : List Step}
    {fields : List (String × Value)} (hn : (steps, .object fields) ∈ document.nodes) :
    ∀ f ∈ ofFields fields, Word f.1 := by
  intro f hf
  have hkey : f.1 ∈ fields.map (·.1) := names_ofFields fields ▸ List.mem_map_of_mem hf
  obtain ⟨g, hg, hname⟩ := List.mem_map.mp hkey
  have hchild : (Step.key g.1, g.2) ∈ (Value.object fields).children :=
    List.mem_map_of_mem (f := fun f => (Step.key f.1, f.2)) hg
  have hword := hkeys _ (Value.child_mem_nodesAt hn hchild) (.key g.1) (by simp)
  rwa [hname] at hword

/-- Every entry of the registry is the shape of a nested object. -/
theorem exists_object_of_mem_registry {e : String × Shape}
    (he : e ∈ (Inference.ofValue document).registry) :
    ∃ steps fields, (steps, .object fields) ∈ document.nodes ∧ e.2 = object (ofFields fields) := by
  rw [registry_ofValue] at he
  have hmade := (Entries.mem_putAll he).resolve_left (by simp)
  obtain ⟨steps, fields, hn, -, rfl⟩ := mem_registrations_iff.mp hmade
  exact ⟨steps, fields, hn, objectShape_eq fields⟩

mutual

/-- Nothing inside a shape stands by itself. -/
theorem eq_or_fst_ne_top (place : Place) :
    ∀ s : Shape, ∀ o ∈ occurrences place s, o = (place, s) ∨ o.1 ≠ .top
  | array element, o, ho => by
    rcases List.mem_cons.mp ho with rfl | ho
    · exact Or.inl rfl
    · exact Or.inr ((eq_or_fst_ne_top .element element o ho).elim (by rintro rfl; simp) id)
  | object fields, o, ho =>
    (List.mem_cons.mp ho).imp_right (fst_ne_top_of_field fields o)
  | union members, o, ho =>
    (List.mem_cons.mp ho).imp_right (fst_ne_top_of_member members o)
  | string, o, ho | number, o, ho | boolean, o, ho | null, o, ho | unknown, o, ho | ref _, o, ho =>
    Or.inl (List.mem_singleton.mp ho)

theorem fst_ne_top_of_field :
    ∀ fields : List (String × Shape), ∀ o ∈ fieldOccurrences fields, o.1 ≠ .top
  | (_, s) :: rest, o, ho =>
    (List.mem_append.mp ho).elim
      (fun ho => (eq_or_fst_ne_top .field s o ho).elim (by rintro rfl; simp) id)
      (fst_ne_top_of_field rest o)

theorem fst_ne_top_of_member :
    ∀ members : List Shape, ∀ o ∈ memberOccurrences members, o.1 ≠ .top
  | s :: rest, o, ho =>
    (List.mem_append.mp ho).elim
      (fun ho => (eq_or_fst_ne_top .member s o ho).elim (by rintro rfl; simp) id)
      (fst_ne_top_of_member rest o)

end

/-- A shape in normal form is legible if the names declared and its own keys are. -/
theorem Normal.legible {registry : Registry} {s : Shape} (h : Normal registry s)
    (hnames : ∀ name ∈ Entries.names registry, NameWord name)
    (hkeys : ∀ fields, s = object fields → ∀ f ∈ fields, Word f.1) : Legible s := by
  rintro ⟨place, t⟩ ho
  have hallowed := h _ ho
  cases t with
  | ref name => exact hnames name hallowed
  | object fields =>
    -- objects stand by themselves only, so this is the shape we started from
    obtain rfl : place = .top := hallowed
    obtain ⟨-, he⟩ := Prod.mk.inj ((eq_or_fst_ne_top .top s _ ho).resolve_right (by simp))
    exact hkeys fields he.symm
  | union members =>
    obtain ⟨-, htwo, -, hmember⟩ := hallowed
    refine ⟨htwo, fun m hm => ?_⟩
    have hm' := hmember m hm
    cases m <;> simp_all [canBeMember, isUnion]
  | _ => trivial

/-- What is inferred of a document whose keys are words is legible, and no name in the registry is a
keyword. -/
theorem legible_inferred (hkeys : document.KeysWords) :
    (Inference.ofValue document).Legible ∧
      ∀ e ∈ (Inference.ofValue document).registry, NameWord e.1 := by
  have hnone : AllNormal [] := fun e he => nomatch he
  obtain ⟨hroot, hentries⟩ := hnone.infer Path.root true document
  have hnames : ∀ name ∈ Entries.names (Inference.ofValue document).registry, NameWord name :=
    fun name hm => (mem_names_registry.mp hm).nameWord hkeys
  have hname : ∀ e ∈ (Inference.ofValue document).registry, NameWord e.1 :=
    fun e he => hnames e.1 (List.mem_map_of_mem he)
  refine ⟨⟨hroot.legible hnames fun fields he => ?_, fun e he => ⟨(hname e he).1, ?_⟩⟩, hname⟩
  · have hof : (Inference.ofValue document).root = ofValue Path.root true document := by
      simp only [Inference.ofValue, infer_eq]
    have he : ofValue Path.root true document = object fields := hof ▸ he
    cases document with
    | object inner =>
      obtain rfl : ofFields inner = fields := by simpa [ofValue] using he
      exact word_of_mem_ofFields hkeys (Value.root_mem_nodes _)
    | array items => cases items <;> simp [ofValue] at he
    | _ => simp [ofValue] at he
  · refine (hentries e he).2.legible hnames fun fields hfields => ?_
    obtain ⟨steps, inner, hn, hinner⟩ := exists_object_of_mem_registry he
    obtain rfl : ofFields inner = fields := by simpa [hinner] using hfields
    exact word_of_mem_ofFields hkeys hn

end Shape

end JsonExplorer
