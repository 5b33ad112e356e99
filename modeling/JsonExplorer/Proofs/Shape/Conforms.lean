import JsonExplorer.Proofs.Shape.Declared

/-!
What it means for a value to be of a shape, and that inference gives every document a shape it is
of, unless two of its objects claim one name for different shapes (`conforms_inferred`). The
registry then ends up with the shape of every nested object under the object's name, however often
the name is written, and the document conforms to its shape node by node.
-/

namespace JsonExplorer.Shape

/-! ## Values of a shape -/

mutual

/-- A value is of a shape, where a name stands for the shape registered under it. Nothing is of the
unknown shape. -/
inductive Conforms (registry : Registry) : Value → Shape → Prop
  | null : Conforms registry .null null
  | boolean (b : Bool) : Conforms registry (.boolean b) boolean
  | number (n : Number) : Conforms registry (.number n) number
  | string (s : String) : Conforms registry (.string s) string
  | array {items : List Value} {element : Shape} :
      (∀ v ∈ items, Conforms registry v element) →
      Conforms registry (.array items) (array element)
  | object {fields : List (String × Value)} {shapes : List (String × Shape)} :
      FieldsConform registry fields shapes → Conforms registry (.object fields) (object shapes)
  | union {v : Value} {member : Shape} {members : List Shape} :
      member ∈ members → Conforms registry v member → Conforms registry v (union members)
  | ref {v : Value} {name : String} {shape : Shape} :
      Entries.get? registry name = some shape → Conforms registry v shape →
      Conforms registry v (ref name)

/-- The fields have the keys of the shapes, in their order, and each is of its shape. -/
inductive FieldsConform (registry : Registry) :
    List (String × Value) → List (String × Shape) → Prop
  | nil : FieldsConform registry [] []
  | cons {key : String} {v : Value} {s : Shape} {fields : List (String × Value)}
      {shapes : List (String × Shape)} :
      Conforms registry v s → FieldsConform registry fields shapes →
      FieldsConform registry ((key, v) :: fields) ((key, s) :: shapes)

end

variable {registry : Registry}

/-! ## The shape of all items -/

theorem mem_distinctShapes {seen shapes : List Shape} {s : Shape} :
    s ∈ distinctShapes seen shapes ↔ s ∈ shapes ∧ s ∉ seen := by
  induction shapes generalizing seen with
  | nil => simp [distinctShapes]
  | cons a rest ih =>
    by_cases ha : a ∈ seen
    · simp only [distinctShapes, ha, ↓reduceIte, ih, List.mem_cons]
      constructor
      · rintro ⟨hs, hn⟩
        exact ⟨Or.inr hs, hn⟩
      · rintro ⟨rfl | hs, hn⟩
        · exact absurd ha hn
        · exact ⟨hs, hn⟩
    · simp only [distinctShapes, ha, ↓reduceIte, ih, List.mem_cons, not_or]
      constructor
      · rintro (rfl | ⟨hs, _, hn⟩)
        · exact ⟨Or.inl rfl, ha⟩
        · exact ⟨Or.inr hs, hn⟩
      · rintro ⟨rfl | hs, hn⟩
        · exact Or.inl rfl
        · by_cases he : s = a
          · exact Or.inl he
          · exact Or.inr ⟨hs, he, hn⟩

/-- What is of one of the shapes is of their unified shape. -/
theorem conforms_unify {v : Value} {shapes : List Shape} {s : Shape} (hs : s ∈ shapes)
    (hv : Conforms registry v s) : Conforms registry v (unify shapes) := by
  have hm : s ∈ distinctShapes [] shapes := mem_distinctShapes.mpr ⟨hs, by simp⟩
  unfold unify
  split
  · rename_i only heq
    obtain rfl : s = only := by simpa [heq] using hm
    exact hv
  · exact .union hm hv

/-! ## Inferred shapes -/

/-- The registry holds the shape of each of the objects under the object's name. -/
def Registers (registry : Registry) (objects : List (String × List (String × Value))) : Prop :=
  ∀ o ∈ objects, Entries.get? registry o.1 = some (object (ofFields o.2))

theorem registers_append {first rest : List (String × List (String × Value))} :
    Registers registry (first ++ rest) ↔ Registers registry first ∧ Registers registry rest :=
  List.forall_mem_append

mutual

/-- A value is of its shape wherever its nested objects are registered. -/
theorem conforms_ofValue (name : String) (isRoot : Bool) :
    ∀ v : Value, Registers registry (nestedObjects name isRoot v) →
      Conforms registry v (ofValue name isRoot v)
  | .null, _ => .null
  | .boolean b, _ => .boolean b
  | .number n, _ => .number n
  | .string s, _ => .string s
  | .array [], _ => .array (by simp)
  | .array (v :: rest), h => by
    have hitems := conforms_ofItems (singularName name) (v :: rest) h
    refine .array fun w hw => conforms_unify ?_ (hitems w hw)
    rw [ofItems_eq_map]
    exact List.mem_map_of_mem hw
  | .object fields, h => by
    simp only [nestedObjects, registers_append] at h
    -- the registered shape is the one a root object would have in place
    have hobject : Conforms registry (.object fields) (object (ofFields fields)) :=
      .object (fieldsConform_ofFields fields h.1)
    cases isRoot with
    | true => exact hobject
    | false => exact .ref (h.2 (name, fields) (by simp)) hobject

theorem conforms_ofItems (name : String) :
    ∀ items : List Value, Registers registry (nestedInItems name items) →
      ∀ v ∈ items, Conforms registry v (ofValue name false v)
  | [], _ => by simp
  | v :: rest, h => by
    simp only [nestedInItems, registers_append] at h
    have hfirst := conforms_ofValue name false v h.1
    have hrest := conforms_ofItems name rest h.2
    intro w hw
    rcases List.mem_cons.mp hw with rfl | hw
    · exact hfirst
    · exact hrest w hw

theorem fieldsConform_ofFields :
    ∀ fields : List (String × Value), Registers registry (nestedInFields fields) →
      FieldsConform registry fields (ofFields fields)
  | [], _ => .nil
  | (k, v) :: rest, h => by
    simp only [nestedInFields, registers_append] at h
    exact .cons (conforms_ofValue (typeName k) false v h.1) (fieldsConform_ofFields rest h.2)

end

/-- The shape an object with these fields is inferred to have. -/
def objectShape (fields : List (String × Value)) : Shape :=
  (infer [] Path.root true (.object fields)).1

/-- No two nested objects of the document claim one name for different shapes. -/
def NamesAgree (document : Value) : Prop :=
  ∀ a ∈ nestedObjects Path.root true document, ∀ b ∈ nestedObjects Path.root true document,
    a.1 = b.1 → objectShape a.2 = objectShape b.2

instance (document : Value) : Decidable (NamesAgree document) :=
  inferInstanceAs (Decidable (∀ a ∈ nestedObjects Path.root true document,
    ∀ b ∈ nestedObjects Path.root true document, a.1 = b.1 → objectShape a.2 = objectShape b.2))

theorem objectShape_eq (fields : List (String × Value)) :
    objectShape fields = object (ofFields fields) := by
  simp [objectShape, infer_eq, ofValue]

/-- When names agree, the last shape written under a name is the shape of all its objects. -/
theorem registers_inferred {document : Value} (h : NamesAgree document) :
    Registers (Inference.ofValue document).registry (nestedObjects Path.root true document) := by
  intro o ho
  -- `o` is written at some point, and any later write to its name writes the same shape
  have hregistry : (Inference.ofValue document).registry =
      Entries.putAll [] (declared Path.root true document) := by
    simp only [Inference.ofValue, infer_eq]
  rw [hregistry]
  refine Entries.get?_putAll_of_agree (Or.inl (List.mem_map_of_mem ho)) fun other hother => ?_
  obtain ⟨o', ho', he⟩ := List.mem_map.mp hother
  obtain ⟨hname, hshape⟩ : o'.1 = o.1 ∧ object (ofFields o'.2) = other := by
    simpa [entryOf] using he
  rw [← hshape, ← objectShape_eq, ← objectShape_eq]
  exact h o' ho' o ho hname

/-- **Inference is sound where names agree.** -/
theorem conforms_inferred (document : Value) (h : NamesAgree document) :
    Conforms (Inference.ofValue document).registry document (Inference.ofValue document).root := by
  have hroot : (Inference.ofValue document).root = ofValue Path.root true document := by
    simp only [Inference.ofValue, infer_eq]
  rw [hroot]
  exact conforms_ofValue Path.root true document (registers_inferred h)

/-- Three users of one shape: two in a list, and one inside an object of a mixed list. -/
def directory : Value :=
  .object
    [("users", .array
        [.object [("id", .number (.integer 1)), ("tags", .array [.string "a"])],
          .object [("id", .number (.integer 2)), ("tags", .array [.string "b", .string "c"])]]),
      ("mixed", .array [.number (.integer 3), .null, .object [("user", .object
        [("id", .number (.integer 4)), ("tags", .array [.string "d"])])]])]

theorem conforms_inferred_directory :
    NamesAgree directory ∧ Conforms (Inference.ofValue directory).registry directory
      (Inference.ofValue directory).root := by
  have hagree : NamesAgree directory := by decide +kernel
  exact ⟨hagree, conforms_inferred directory hagree⟩

end JsonExplorer.Shape
