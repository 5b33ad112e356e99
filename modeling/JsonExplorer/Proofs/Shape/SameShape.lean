import JsonExplorer.Proofs.Shape.Declared

/-!
Inference looks at the kinds of the scalars, the lengths of the arrays and the keys of the objects
of a document, and at nothing else: values of the same shape get the same shape and make the same
declarations (`SameShape.ofValue_eq_and_declared_eq`). An array whose items are all of one shape is
inferred like one of them alone in an array, since declaring the same once more changes nothing
(`infer_array_eq_singleton`); neither the number of items nor clashes of names in them matter.
-/

namespace JsonExplorer.Shape

/-! ## Values of the same shape -/

mutual

/-- Scalars of the same kind, arrays of equal length with items of the same shape place by place,
and objects with the same keys in the same order and fields of the same shape. -/
inductive SameShape : Value → Value → Prop
  | null : SameShape .null .null
  | boolean (b c : Bool) : SameShape (.boolean b) (.boolean c)
  | number (m n : Number) : SameShape (.number m) (.number n)
  | string (s t : String) : SameShape (.string s) (.string t)
  | array {items others : List Value} :
      ItemsSameShape items others → SameShape (.array items) (.array others)
  | object {fields others : List (String × Value)} :
      FieldsSameShape fields others → SameShape (.object fields) (.object others)

inductive ItemsSameShape : List Value → List Value → Prop
  | nil : ItemsSameShape [] []
  | cons {v w : Value} {items others : List Value} :
      SameShape v w → ItemsSameShape items others → ItemsSameShape (v :: items) (w :: others)

inductive FieldsSameShape : List (String × Value) → List (String × Value) → Prop
  | nil : FieldsSameShape [] []
  | cons {key : String} {v w : Value} {fields others : List (String × Value)} :
      SameShape v w → FieldsSameShape fields others →
      FieldsSameShape ((key, v) :: fields) ((key, w) :: others)

end

mutual

theorem SameShape.refl : ∀ v : Value, SameShape v v
  | .null => .null
  | .boolean b => .boolean b b
  | .number n => .number n n
  | .string s => .string s s
  | .array items => .array (ItemsSameShape.refl items)
  | .object fields => .object (FieldsSameShape.refl fields)

theorem ItemsSameShape.refl : ∀ items : List Value, ItemsSameShape items items
  | [] => .nil
  | v :: rest => .cons (SameShape.refl v) (ItemsSameShape.refl rest)

theorem FieldsSameShape.refl : ∀ fields : List (String × Value), FieldsSameShape fields fields
  | [] => .nil
  | (_, v) :: rest => .cons (SameShape.refl v) (FieldsSameShape.refl rest)

end

mutual

/-- Values of the same shape get the same shape and make the same declarations, in the same order,
whatever they are called. -/
theorem SameShape.ofValue_eq_and_declared_eq (name : String) (isRoot : Bool) :
    ∀ {v w : Value}, SameShape v w →
      ofValue name isRoot v = ofValue name isRoot w ∧
        declared name isRoot v = declared name isRoot w
  | _, _, .null => ⟨rfl, rfl⟩
  | _, _, .boolean _ _ => ⟨rfl, rfl⟩
  | _, _, .number _ _ => ⟨rfl, rfl⟩
  | _, _, .string _ _ => ⟨rfl, rfl⟩
  | _, _, .array .nil => ⟨rfl, rfl⟩
  | _, _, .array (.cons hfirst hrest) => by
    obtain ⟨hshapes, hdeclared⟩ :=
      ItemsSameShape.ofItems_eq_and_declaredItems_eq (singularName name) (.cons hfirst hrest)
    rw [declared_array, declared_array, hdeclared, ofValue, ofValue, hshapes]
    exact ⟨rfl, rfl⟩
  | _, _, .object hfields => by
    obtain ⟨hshapes, hdeclared⟩ := hfields.ofFields_eq_and_declaredFields_eq
    rw [declared_object, declared_object, hdeclared, ofValue, ofValue, hshapes]
    exact ⟨rfl, rfl⟩

theorem ItemsSameShape.ofItems_eq_and_declaredItems_eq (name : String) :
    ∀ {items others : List Value}, ItemsSameShape items others →
      ofItems name items = ofItems name others ∧
        declaredItems name items = declaredItems name others
  | _, _, .nil => ⟨rfl, rfl⟩
  | _, _, .cons hv hrest => by
    obtain ⟨hshape, hown⟩ := hv.ofValue_eq_and_declared_eq name false
    obtain ⟨hshapes, hdeclared⟩ := hrest.ofItems_eq_and_declaredItems_eq name
    rw [declaredItems_cons, declaredItems_cons, hown, hdeclared, ofItems, ofItems, hshape, hshapes]
    exact ⟨rfl, rfl⟩

theorem FieldsSameShape.ofFields_eq_and_declaredFields_eq :
    ∀ {fields others : List (String × Value)}, FieldsSameShape fields others →
      ofFields fields = ofFields others ∧ declaredFields fields = declaredFields others
  | _, _, .nil => ⟨rfl, rfl⟩
  | _, _, @FieldsSameShape.cons key _ _ _ _ hv hrest => by
    obtain ⟨hshape, hown⟩ := hv.ofValue_eq_and_declared_eq (typeName key) false
    obtain ⟨hshapes, hdeclared⟩ := hrest.ofFields_eq_and_declaredFields_eq
    rw [declaredFields_cons, declaredFields_cons, hown, hdeclared, ofFields, ofFields, hshape,
      hshapes]
    exact ⟨rfl, rfl⟩

end

/-- Inference cannot tell values of the same shape apart. -/
theorem SameShape.infer_eq {v w : Value} (h : SameShape v w) (registry : Registry) (name : String)
    (isRoot : Bool) : infer registry name isRoot v = infer registry name isRoot w := by
  obtain ⟨hshape, hdeclared⟩ := h.ofValue_eq_and_declared_eq name isRoot
  rw [Shape.infer_eq, Shape.infer_eq, hshape, hdeclared]

/-! ## Items of one shape -/

theorem distinctShapes_eq_nil {seen shapes : List Shape} (h : ∀ s ∈ shapes, s ∈ seen) :
    distinctShapes seen shapes = [] := by
  induction shapes with
  | nil => rfl
  | cons s rest ih =>
    obtain ⟨hs, hrest⟩ := List.forall_mem_cons.mp h
    rw [distinctShapes, if_pos hs]
    exact ih hrest

/-- Equal shapes unify to the one they all are. -/
theorem unify_eq_of_forall_eq {shapes : List Shape} {s : Shape} (hne : shapes ≠ [])
    (h : ∀ t ∈ shapes, t = s) : unify shapes = s := by
  cases shapes with
  | nil => exact absurd rfl hne
  | cons t rest =>
    obtain ⟨rfl, hrest⟩ := List.forall_mem_cons.mp h
    have hseen : ∀ u ∈ rest, u ∈ [t] := fun u hu => List.mem_singleton.mpr (hrest u hu)
    have hdistinct : distinctShapes [] (t :: rest) = [t] := by
      rw [distinctShapes, if_neg List.not_mem_nil, distinctShapes_eq_nil hseen]
    rw [unify, hdistinct]

/-- Where the declarations of a value have been made, items of its shape add nothing. -/
theorem putAll_declaredItems (registry : Registry) (name : String) {v : Value} {items : List Value}
    (h : ∀ w ∈ items, SameShape v w) :
    Entries.putAll (Entries.putAll registry (declared name false v)) (declaredItems name items) =
      Entries.putAll registry (declared name false v) := by
  induction items with
  | nil => rfl
  | cons w rest ih =>
    obtain ⟨hw, hrest⟩ := List.forall_mem_cons.mp h
    rw [declaredItems_cons, Entries.putAll_append,
      ← (hw.ofValue_eq_and_declared_eq name false).2, Entries.putAll_putAll_self]
    exact ih hrest

/-- An array of items of one shape is an array of that shape, and declares what one item does. -/
theorem infer_array_eq (registry : Registry) (name : String) (isRoot : Bool) {v : Value}
    {items : List Value} (hne : items ≠ []) (h : ∀ w ∈ items, SameShape v w) :
    infer registry name isRoot (.array items) =
      (array (ofValue (singularName name) false v),
        Entries.putAll registry (declared (singularName name) false v)) := by
  have hunify :
      unify (ofItems (singularName name) items) = ofValue (singularName name) false v := by
    refine unify_eq_of_forall_eq (by simpa [ofItems_eq_map] using hne) fun s hs => ?_
    rw [ofItems_eq_map] at hs
    obtain ⟨w, hw, rfl⟩ := List.mem_map.mp hs
    exact ((h w hw).ofValue_eq_and_declared_eq _ false).1.symm
  cases items with
  | nil => exact absurd rfl hne
  | cons w rest =>
    obtain ⟨hw, hrest⟩ := List.forall_mem_cons.mp h
    have hregistry : Entries.putAll registry (declaredItems (singularName name) (w :: rest)) =
        Entries.putAll registry (declared (singularName name) false v) := by
      rw [declaredItems_cons, Entries.putAll_append,
        ← (hw.ofValue_eq_and_declared_eq (singularName name) false).2]
      exact putAll_declaredItems registry (singularName name) hrest
    rw [Shape.infer_eq, declared_array, hregistry, ofValue, hunify]

/-- However many items of one shape there are, they are inferred as one of them alone would be. -/
theorem infer_array_eq_singleton (registry : Registry) (name : String) (isRoot : Bool) {v : Value}
    {items : List Value} (hne : items ≠ []) (h : ∀ w ∈ items, SameShape v w) :
    infer registry name isRoot (.array items) = infer registry name isRoot (.array [v]) := by
  rw [infer_array_eq registry name isRoot hne h, infer_array_eq registry name isRoot
    (List.cons_ne_nil v []) (List.forall_mem_singleton.mpr (SameShape.refl v))]

/-- **Inference sees only shape.** Values of the same shape are inferred alike, to the order of the
declarations. An array of items of one shape, at least one of them, is inferred like the array of a
single item of that shape: for any number of items, and also where names clash within them. -/
theorem inferred_by_shape :
    (∀ v w : Value, SameShape v w → Inference.ofValue v = Inference.ofValue w) ∧
    ∀ (v : Value) (items : List Value), items ≠ [] → (∀ w ∈ items, SameShape v w) →
      Inference.ofValue (.array items) = Inference.ofValue (.array [v]) := by
  refine ⟨fun v w h => ?_, fun v items hne h => ?_⟩
  · rw [Inference.ofValue, Inference.ofValue, h.infer_eq]
  · rw [Inference.ofValue, Inference.ofValue, infer_array_eq_singleton [] Path.root true hne h]

/-- Two members that claim one name: the owner of a list, and an owner within it. -/
def membership (id : Int) (active : Bool) : Value :=
  .object
    [("owner", .object [("id", .number (.integer id))]),
      ("Owner", .object [("active", .boolean active), ("tags", .array [.string "a"])])]

/-- As many as are inferred apart, with two owners in each, declare what one of them does. -/
theorem inferred_by_shape_memberships :
    SameShape (membership 1 true) (membership 2 false) ∧
      Inference.ofValue (membership 1 true) = Inference.ofValue (membership 2 false) ∧
      Inference.ofValue (.array (List.replicate apartThreshold (membership 2 false))) =
        ⟨array (ref "RootItem"),
          [("Owner", object [("active", boolean), ("tags", array string)]),
            ("RootItem", object [("owner", ref "Owner"), ("Owner", ref "Owner")])]⟩ := by
  have hsame : SameShape (membership 1 true) (membership 2 false) :=
    .object (.cons (.object (.cons (.number _ _) .nil))
      (.cons (.object (.cons (.boolean _ _)
        (.cons (.array (.cons (.string _ _) .nil)) .nil))) .nil))
  have hne : List.replicate apartThreshold (membership 2 false) ≠ [] := by
    rw [Ne, List.replicate_eq_nil_iff]
    decide
  obtain ⟨hequal, hcollapse⟩ := inferred_by_shape
  refine ⟨hsame, hequal _ _ hsame, ?_⟩
  rw [hcollapse (membership 1 true) _ hne fun w hw => List.eq_of_mem_replicate hw ▸ hsame]
  decide +kernel

end JsonExplorer.Shape
