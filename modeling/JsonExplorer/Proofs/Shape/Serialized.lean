import JsonExplorer.Proofs.Json.Apart
import JsonExplorer.Shape.Json

/-!
Equality of shapes and their JSON text. A shape is written with its kind in front, so that it can be
told from the value it is written as (`toValue_inj`), and that value from its text. To compare two
shapes, two registries or two inferences is therefore to compare their texts
(`same_iff_same_text`), in which the order of fields, members and declarations shows.
-/

namespace JsonExplorer

namespace Shape

open Value (Numberless ItemsNumberless FieldsNumberless)

/-! ## Shapes as values -/

mutual

theorem numberless_toValue : ∀ s : Shape, s.toValue.Numberless
  | string | number | boolean | null | unknown | ref _ => by
    simp [toValue, kindOnly, Numberless, FieldsNumberless]
  | array element => by
    simp [toValue, Numberless, FieldsNumberless, numberless_toValue element]
  | object fields => by
    simp [toValue, Numberless, FieldsNumberless, numberless_fieldValues fields]
  | union members => by
    simp [toValue, Numberless, FieldsNumberless, numberless_memberValues members]

theorem numberless_fieldValues : ∀ fields : List (String × Shape),
    FieldsNumberless (fieldValues fields)
  | [] => trivial
  | (_, s) :: rest => ⟨numberless_toValue s, numberless_fieldValues rest⟩

theorem numberless_memberValues : ∀ members : List Shape, ItemsNumberless (memberValues members)
  | [] => trivial
  | s :: rest => ⟨numberless_toValue s, numberless_memberValues rest⟩

end

mutual

/-- Different shapes are written as different values. -/
theorem toValue_inj : ∀ {s t : Shape}, s.toValue = t.toValue → s = t
  | string, t, h | number, t, h | boolean, t, h | null, t, h | unknown, t, h => by
    cases t <;> simp_all [toValue, kindOnly]
  | ref name, t, h => by
    cases t <;> simp_all [toValue, kindOnly]
  | array element, t, h => by
    cases t with
    | array other => exact congrArg array (toValue_inj (by simpa [toValue] using h))
    | _ => simp [toValue, kindOnly] at h
  | object fields, t, h => by
    cases t with
    | object others => exact congrArg object (fieldValues_inj (by simpa [toValue] using h))
    | _ => simp [toValue, kindOnly] at h
  | union members, t, h => by
    cases t with
    | union others => exact congrArg union (memberValues_inj (by simpa [toValue] using h))
    | _ => simp [toValue, kindOnly] at h

theorem fieldValues_inj : ∀ {fields others : List (String × Shape)},
    fieldValues fields = fieldValues others → fields = others
  | [], others, h => by
    cases others <;> simp_all [fieldValues]
  | (k, s) :: fields, others, h => by
    cases others with
    | nil => simp [fieldValues] at h
    | cons f others =>
      obtain ⟨l, t⟩ := f
      simp only [fieldValues, List.cons.injEq, Prod.mk.injEq] at h
      obtain ⟨⟨rfl, hs⟩, hfields⟩ := h
      rw [toValue_inj hs, fieldValues_inj hfields]

theorem memberValues_inj : ∀ {members others : List Shape},
    memberValues members = memberValues others → members = others
  | [], others, h => by
    cases others <;> simp_all [memberValues]
  | s :: members, others, h => by
    cases others with
    | nil => simp [memberValues] at h
    | cons t others =>
      simp only [memberValues, List.cons.injEq] at h
      rw [toValue_inj h.1, memberValues_inj h.2]

end

end Shape

/-! ## Values as texts -/

theorem Shape.compact_toValue_inj {s t : Shape} :
    s.toValue.compact = t.toValue.compact ↔ s = t := by
  rw [Value.compact_inj (numberless_toValue s) (numberless_toValue t)]
  exact ⟨toValue_inj, congrArg toValue⟩

namespace Registry

theorem numberless_toValue (r : Registry) : r.toValue.Numberless := by
  simp [toValue, Value.Numberless, Value.FieldsNumberless, Shape.numberless_fieldValues]

theorem toValue_inj {r r' : Registry} (h : r.toValue = r'.toValue) : r = r' :=
  Shape.fieldValues_inj (by simpa [toValue] using h)

theorem compact_toValue_inj {r r' : Registry} :
    r.toValue.compact = r'.toValue.compact ↔ r = r' := by
  rw [Value.compact_inj r.numberless_toValue r'.numberless_toValue]
  exact ⟨toValue_inj, congrArg toValue⟩

end Registry

namespace Inference

theorem numberless_toValue (i : Inference) : i.toValue.Numberless :=
  ⟨Shape.numberless_toValue i.root, i.registry.numberless_toValue, trivial⟩

theorem toValue_inj {i j : Inference} (h : i.toValue = j.toValue) : i = j := by
  obtain ⟨hroot, hregistry⟩ : i.root.toValue = j.root.toValue ∧
      i.registry.toValue = j.registry.toValue := by simpa [toValue] using h
  cases i
  cases j
  rw [Inference.mk.injEq]
  exact ⟨Shape.toValue_inj hroot, Registry.toValue_inj hregistry⟩

theorem compact_toValue_inj {i j : Inference} :
    i.toValue.compact = j.toValue.compact ↔ i = j := by
  rw [Value.compact_inj i.numberless_toValue j.numberless_toValue]
  exact ⟨toValue_inj, congrArg toValue⟩

end Inference

/-- **To compare is to compare texts.** Two shapes are built alike exactly if their JSON texts are
the same, two registries are equal exactly if theirs are, and so are two inferences. The texts of
two objects are the same only for the same fields in the same order, and likewise for the members
of unions and the declarations of registries. -/
theorem same_iff_same_text :
    (∀ s t : Shape, Shape.same s t = true ↔ s.toValue.compact = t.toValue.compact) ∧
    (∀ r r' : Registry, (r == r') = true ↔ r.toValue.compact = r'.toValue.compact) ∧
    (∀ i j : Inference, (i == j) = true ↔ i.toValue.compact = j.toValue.compact) ∧
    (∀ fields others : List (String × Shape),
      (Shape.object fields).toValue.compact = (Shape.object others).toValue.compact ↔
        fields = others) ∧
    (∀ members others : List Shape,
      (Shape.union members).toValue.compact = (Shape.union others).toValue.compact ↔
        members = others) ∧
    ∀ r r' : Registry, r.toValue.compact = r'.toValue.compact ↔ r = r' := by
  refine ⟨fun s t => ?_, fun r r' => ?_, fun i j => ?_, fun fields others => ?_,
    fun members others => ?_, fun r r' => Registry.compact_toValue_inj⟩
  · rw [Shape.same_iff, Shape.compact_toValue_inj]
  · rw [beq_iff_eq, Registry.compact_toValue_inj]
  · rw [beq_iff_eq, Inference.compact_toValue_inj]
  · rw [Shape.compact_toValue_inj, Shape.object.injEq]
  · rw [Shape.compact_toValue_inj, Shape.union.injEq]

end JsonExplorer
