import JsonExplorer.Proofs.Entries
import JsonExplorer.Shape.Infer

/-!
What inference does, without its registry. The shape of a value depends on the value and its name
alone (`ofValue`), and the registry only takes in one declaration for each nested object, in the
order in which they are come upon (`declared`). `infer_eq` says that this is all inference does, and
`apart_eq_threaded` that it makes no difference whether the items of an array are inferred one after
another or each with a registry of its own.
-/

namespace JsonExplorer.Shape

mutual

def ofValue (name : String) (isRoot : Bool) : Value → Shape
  | .null => null
  | .boolean _ => boolean
  | .number _ => number
  | .string _ => string
  | .array [] => array unknown
  | .array (v :: rest) => array (unify (ofItems (singularName name) (v :: rest)))
  | .object fields => if isRoot then object (ofFields fields) else ref name

def ofItems (name : String) : List Value → List Shape
  | [] => []
  | v :: rest => ofValue name false v :: ofItems name rest

def ofFields : List (String × Value) → List (String × Shape)
  | [] => []
  | (k, v) :: rest => (k, ofValue (typeName k) false v) :: ofFields rest

end

mutual

/-- The objects of a value called `name` apart from the root, inner ones first: the name each is
declared under, and its fields. -/
def nestedObjects (name : String) (isRoot : Bool) :
    Value → List (String × List (String × Value))
  | .array items => nestedInItems (singularName name) items
  | .object fields => nestedInFields fields ++ if isRoot then [] else [(name, fields)]
  | _ => []

def nestedInItems (name : String) : List Value → List (String × List (String × Value))
  | [] => []
  | v :: rest => nestedObjects name false v ++ nestedInItems name rest

def nestedInFields : List (String × Value) → List (String × List (String × Value))
  | [] => []
  | (k, v) :: rest => nestedObjects (typeName k) false v ++ nestedInFields rest

end

/-- What a nested object puts into the registry. -/
def entryOf (o : String × List (String × Value)) : String × Shape :=
  (o.1, object (ofFields o.2))

/-- The declarations made for a value called `name`, in order. -/
def declared (name : String) (isRoot : Bool) (v : Value) : List (String × Shape) :=
  (nestedObjects name isRoot v).map entryOf

def declaredItems (name : String) (items : List Value) : List (String × Shape) :=
  (nestedInItems name items).map entryOf

def declaredFields (fields : List (String × Value)) : List (String × Shape) :=
  (nestedInFields fields).map entryOf

theorem declared_array (name : String) (isRoot : Bool) (items : List Value) :
    declared name isRoot (.array items) = declaredItems (singularName name) items := by
  simp only [declared, declaredItems, nestedObjects]

theorem declared_object (name : String) (isRoot : Bool) (fields : List (String × Value)) :
    declared name isRoot (.object fields) =
      declaredFields fields ++ if isRoot then [] else [(name, object (ofFields fields))] := by
  cases isRoot <;> simp [declared, declaredFields, nestedObjects, entryOf]

theorem declaredItems_cons (name : String) (v : Value) (rest : List Value) :
    declaredItems name (v :: rest) = declared name false v ++ declaredItems name rest := by
  simp only [declaredItems, declared, nestedInItems, List.map_append]

theorem declaredFields_cons (k : String) (v : Value) (rest : List (String × Value)) :
    declaredFields ((k, v) :: rest) =
      declared (typeName k) false v ++ declaredFields rest := by
  simp only [declaredFields, declared, nestedInFields, List.map_append]

/-- Taking in the registries of items gone through apart. -/
theorem absorb_parts (registry : Registry) (name : String) (items : List Value) :
    (items.map fun v => (ofValue name false v, Entries.ofList (declared name false v))).foldl
        (fun r p => Registry.absorb r p.2) registry =
      Entries.putAll registry (declaredItems name items) := by
  induction items generalizing registry with
  | nil => rfl
  | cons v rest ih =>
    rw [List.map_cons, List.foldl_cons, ih, declaredItems_cons, Entries.putAll_append]
    simp only [Registry.absorb, Entries.putAll_ofList]

theorem ofItems_eq_map (name : String) (items : List Value) :
    ofItems name items = items.map (ofValue name false) := by
  induction items with
  | nil => rfl
  | cons v rest ih => simp only [ofItems, List.map_cons, ih]

/-! ## Inference -/

mutual

/-- **What inference does.** It gives the shape of the value and writes its declarations. -/
theorem infer_eq (registry : Registry) (name : String) (isRoot : Bool) :
    ∀ v : Value, infer registry name isRoot v =
      (ofValue name isRoot v, Entries.putAll registry (declared name isRoot v))
  | .null | .boolean _ | .number _ | .string _ | .array [] => by
    simp [infer, ofValue, declared, nestedObjects, nestedInItems, Entries.putAll]
  | .array (v :: rest) => by
    have hthreaded := inferThreaded_eq registry (singularName name) (v :: rest)
    have hapart := inferApart_eq (singularName name) (v :: rest)
    have habsorb := absorb_parts registry (singularName name) (v :: rest)
    have hshapes := ofItems_eq_map (singularName name) (v :: rest)
    rw [declared_array]
    simp only [infer, ofValue]
    -- the two branches of the code differ in how the registry is filled, not in what it holds
    split
    · rw [hthreaded]
    · rw [hapart, habsorb, hshapes, List.map_map]
      rfl
  | .object fields => by
    have hfields := inferFields_eq registry fields
    rw [declared_object]
    simp only [infer, ofValue, hfields]
    cases isRoot
    · simp [Entries.putAll]
    · simp

theorem inferThreaded_eq (registry : Registry) (name : String) :
    ∀ items : List Value, inferThreaded registry name items =
      (ofItems name items, Entries.putAll registry (declaredItems name items))
  | [] => by simp [inferThreaded, ofItems, declaredItems, nestedInItems, Entries.putAll]
  | v :: rest => by
    have hfirst := infer_eq registry name false v
    have hrest := inferThreaded_eq (Entries.putAll registry (declared name false v)) name rest
    simp only [inferThreaded, ofItems, hfirst, hrest, declaredItems_cons, Entries.putAll_append]

theorem inferApart_eq (name : String) :
    ∀ items : List Value, inferApart name items =
      items.map fun v => (ofValue name false v, Entries.ofList (declared name false v))
  | [] => by simp [inferApart]
  | v :: rest => by
    have hfirst := infer_eq [] name false v
    have hrest := inferApart_eq name rest
    simp only [inferApart, List.map_cons, hfirst, hrest, Entries.ofList]

theorem inferFields_eq (registry : Registry) :
    ∀ fields : List (String × Value), inferFields registry fields =
      (ofFields fields, Entries.putAll registry (declaredFields fields))
  | [] => by simp [inferFields, ofFields, declaredFields, nestedInFields, Entries.putAll]
  | (k, v) :: rest => by
    have hfirst := infer_eq registry (typeName k) false v
    have hrest := inferFields_eq (Entries.putAll registry (declared (typeName k) false v)) rest
    simp only [inferFields, ofFields, hfirst, hrest, declaredFields_cons, Entries.putAll_append]

end

/-- **Apart or one after another.** Inferring items each with a registry of its own, and taking in
these registries in order, gives the shapes and leaves the registry that come of inferring the items
one after another: for any items, among them arrays that are gone through apart themselves, any
registry to begin with, and any clash of names. -/
theorem apart_eq_threaded (registry : Registry) (name : String) (items : List Value) :
    let parts := inferApart name items
    (parts.map (·.1), parts.foldl (fun r p => Registry.absorb r p.2) registry) =
      inferThreaded registry name items := by
  intro parts
  have hparts : parts =
      items.map fun v => (ofValue name false v, Entries.ofList (declared name false v)) :=
    inferApart_eq name items
  have hshapes : parts.map (·.1) = ofItems name items := by
    rw [hparts, ofItems_eq_map, List.map_map]
    rfl
  have hregistry : parts.foldl (fun r p => Registry.absorb r p.2) registry =
      Entries.putAll registry (declaredItems name items) := by
    rw [hparts]
    exact absorb_parts registry name items
  rw [hshapes, hregistry, inferThreaded_eq]

end JsonExplorer.Shape
