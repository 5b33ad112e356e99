import JsonExplorer.Proofs.Shape.Conforms
import JsonExplorer.Proofs.Value.Nodes

/-!
What inference leaves in a registry. The names of the values in a document are made step by step on
the way down (`nameAt`), and each object but the root is registered under its name when all objects
in it have been (`registrations`). The registry takes the registrations one after another, so a name
stands where it was first registered and holds the shape registered for it last
(`registry_takes_registrations`).
-/

namespace JsonExplorer.Shape

/-! ## Names on the way down -/

/-- The name of a value one step below a value called `name`. -/
def nameAfter (name : String) : Step → String
  | .key k => typeName k
  | .index _ => singularName name

def nameAt (name : String) (steps : List Step) : String := steps.foldl nameAfter name

theorem nameAt_append_singleton (name : String) (steps : List Step) (s : Step) :
    nameAt name (steps ++ [s]) = nameAfter (nameAt name steps) s := by
  simp only [nameAt, List.foldl_append, List.foldl_cons, List.foldl_nil]

/-! ## Registrations -/

/-- What the node some steps below a value called `name` puts into the registry: nothing unless it
is an object, and nothing if it is the root. -/
def registration? (name : String) (isRoot : Bool) : List Step × Value → Option (String × Shape)
  | (steps, .object fields) =>
    if isRoot = true ∧ steps = [] then none else some (nameAt name steps, objectShape fields)
  | _ => none

/-- The registrations made for a value called `name`, those of inner objects first. -/
def registrations (name : String) (isRoot : Bool) (v : Value) : List (String × Shape) :=
  v.nodesUp.filterMap (registration? name isRoot)

theorem nestedInItems_eq (name : String) (items : List Value) :
    nestedInItems name items = items.flatMap (nestedObjects name false) := by
  induction items with
  | nil => rfl
  | cons v rest ih => simp only [nestedInItems, List.flatMap_cons, ih]

theorem nestedInFields_eq (fields : List (String × Value)) :
    nestedInFields fields = fields.flatMap fun f => nestedObjects (typeName f.1) false f.2 := by
  induction fields with
  | nil => rfl
  | cons f rest ih => simp only [nestedInFields, List.flatMap_cons, ih]

/-- The value itself, if it is an object and not the root. -/
def ownObject (name : String) (isRoot : Bool) : Value → List (String × List (String × Value))
  | .object fields => if isRoot then [] else [(name, fields)]
  | _ => []

/-- The nested objects of a value are those of its children, and then itself. -/
theorem nestedObjects_eq (name : String) (isRoot : Bool) (v : Value) :
    nestedObjects name isRoot v =
      (v.children.flatMap fun c => nestedObjects (nameAfter name c.1) false c.2) ++
        ownObject name isRoot v := by
  cases v with
  | array items =>
    have hitems : (items.zipIdx.flatMap fun x => nestedObjects (singularName name) false x.1) =
        items.flatMap (nestedObjects (singularName name) false) := by
      rw [← List.flatMap_map (f := Prod.fst) (g := nestedObjects _ _), List.zipIdx_map_fst]
    simp only [nestedObjects, nestedInItems_eq, Value.children, List.flatMap_map, ownObject,
      nameAfter, List.append_nil, hitems]
  | object fields =>
    simp [nestedObjects, nestedInFields_eq, Value.children, List.flatMap_map, ownObject, nameAfter]
  | _ => simp [nestedObjects, Value.children, ownObject]

/-- The registrations below a node are its declarations, whatever steps lead to it. -/
theorem filterMap_registration? (name : String) (isRoot : Bool) (trail : List Step) (v : Value) :
    (v.nodesUpAt trail).filterMap (registration? name isRoot) =
      declared (nameAt name trail) (isRoot && trail.isEmpty) v := by
  induction v using Value.inductionOnChildren generalizing trail with
  | node v ih =>
    have hchildren : ∀ c ∈ v.children,
        (c.2.nodesUpAt (trail ++ [c.1])).filterMap (registration? name isRoot) =
          (nestedObjects (nameAfter (nameAt name trail) c.1) false c.2).map entryOf := by
      intro c hc
      have hbelow : (trail ++ [c.1]).isEmpty = false := by simp
      rw [ih c hc, nameAt_append_singleton, hbelow, Bool.and_false, declared]
    have hown : [(trail, v)].filterMap (registration? name isRoot) =
        (ownObject (nameAt name trail) (isRoot && trail.isEmpty) v).map entryOf := by
      cases v with
      | object fields =>
        by_cases h : isRoot = true ∧ trail = []
        · simp [registration?, ownObject, h]
        · have hnested : (isRoot && trail.isEmpty) = false := by simpa using h
          simp [registration?, ownObject, h, hnested, entryOf, objectShape_eq]
      | _ => rfl
    rw [Value.nodesUpAt_eq, declared, nestedObjects_eq, List.filterMap_append, List.map_append,
      hown, List.filterMap_flatMap, List.map_flatMap]
    congr 1
    exact List.flatMap_congr hchildren

theorem registrations_eq (name : String) (isRoot : Bool) (v : Value) :
    registrations name isRoot v = declared name isRoot v := by
  simpa [registrations, Value.nodesUp, nameAt] using filterMap_registration? name isRoot [] v

/-- Every nested object is registered, under its name and with its shape, and nothing else is. -/
theorem mem_registrations_iff {name : String} {isRoot : Bool} {v : Value} {e : String × Shape} :
    e ∈ registrations name isRoot v ↔ ∃ steps fields, (steps, .object fields) ∈ v.nodes ∧
      ¬ (isRoot = true ∧ steps = []) ∧ e = (nameAt name steps, objectShape fields) := by
  rw [registrations, List.mem_filterMap]
  constructor
  · rintro ⟨⟨steps, w⟩, hn, he⟩
    have hnode : (steps, w) ∈ v.nodes := (Value.nodesUpAt_perm [] v).mem_iff.mp hn
    cases w with
    | object fields =>
      simp only [registration?, Option.ite_none_left_eq_some, Option.some.injEq] at he
      exact ⟨steps, fields, hnode, he.1, he.2.symm⟩
    | _ => simp [registration?] at he
  · rintro ⟨steps, fields, hnode, hnested, rfl⟩
    exact ⟨_, (Value.nodesUpAt_perm [] v).mem_iff.mpr hnode, by simp only [registration?, hnested,
      ↓reduceIte]⟩

/-- The registry of a document takes its registrations from nothing. -/
theorem registry_ofValue (document : Value) : (Inference.ofValue document).registry =
    Entries.putAll [] (registrations Path.root true document) := by
  simp only [Inference.ofValue, infer_eq, registrations_eq]

/-- **What inference leaves in a registry.** The shape of a value does not depend on the registry it
is inferred with. Into that registry go the registrations of all objects of the value, children
before their parent and siblings in order, one after another: names that were there keep their
places, new ones follow in the order in which they were first registered, a name holds the shape
registered for it last, and one that was not registered holds what it held. So inferring the same
value once more changes nothing. -/
theorem registry_takes_registrations (registry : Registry) (name : String) (isRoot : Bool)
    (v : Value) :
    let after := infer registry name isRoot v
    let made := registrations name isRoot v
    v.nodesUp.Perm v.nodes ∧
      after.1 = (infer [] name isRoot v).1 ∧
      after.2 = made.foldl (fun r e => Entries.put r e.1 e.2) registry ∧
      Entries.names after.2 = Entries.names registry ++
        ((Entries.names made).filter (· ∉ Entries.names registry)).eraseDups ∧
      (∀ n, Entries.get? after.2 n =
        (Entries.get? made.reverse n).or (Entries.get? registry n)) ∧
      infer after.2 name isRoot v = after := by
  intro after made
  have hshape : after.1 = ofValue name isRoot v :=
    congrArg Prod.fst (infer_eq registry name isRoot v)
  have hregistry : after.2 = Entries.putAll registry made := by
    have h := congrArg Prod.snd (infer_eq registry name isRoot v)
    rwa [← registrations_eq] at h
  refine ⟨Value.nodesUpAt_perm [] v, ?_, hregistry, ?_, fun n => ?_, ?_⟩
  · rw [hshape, infer_eq]
  · rw [hregistry, Entries.names_putAll]
  · rw [hregistry, Entries.get?_putAll]
  · have hagain : Entries.putAll after.2 made = after.2 := by
      rw [hregistry, Entries.putAll_putAll_self]
    rw [infer_eq, ← registrations_eq, hagain, ← hshape]

/-- Of two users the later one is registered in the place of the earlier one. -/
example :
    infer [("List", object []), ("Id", object [])] "Account" false (.object
      [("user", .object [("id", .object [])]), ("list", .array [.object []]),
        ("User", .object [("name", .null)])]) =
      (ref "Account", [("List", object []), ("Id", object []), ("User", object [("name", null)]),
        ("ListItem", object []), ("Account", object
          [("user", ref "User"), ("list", array (ref "ListItem")), ("User", ref "User")])]) := by
  decide +kernel

end JsonExplorer.Shape
