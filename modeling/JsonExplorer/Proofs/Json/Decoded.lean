import JsonExplorer.Json.Decode
import JsonExplorer.Proofs.Entries
import JsonExplorer.Proofs.Value.Nodes

/-!
What decoding yields. A key that comes again in an object takes the place it has, so no object of a
decoded document holds a key twice (`keysDistinct_of_decode`).
-/

namespace JsonExplorer

namespace Value

/-- Writing a field keeps the keys of an object distinct. -/
theorem KeysDistinct.put {fields : Entries Value} (h : (object fields).KeysDistinct) (name : String)
    {v : Value} (hv : v.KeysDistinct) : (object (fields.put name v)).KeysDistinct := by
  refine ⟨Entries.nodup_names_put h.1 name v, fieldsKeysDistinct_iff.mpr fun f hf => ?_⟩
  rcases Entries.mem_put hf with rfl | hf
  · exact hv
  · exact fieldsKeysDistinct_iff.mp h.2 f hf

end Value

namespace Json

theorem bind_eq_ok {α β : Type} {x : Scan α} {f : α → Scan β} {b : β} (h : x >>= f = .ok b) :
    ∃ a, x = .ok a ∧ f a = .ok b := by
  cases x with
  | error e => cases h
  | ok a => exact ⟨a, rfl, h⟩

theorem map_eq_ok {α β : Type} {x : Scan α} {f : α → β} {b : β} (h : x.map f = .ok b) :
    ∃ a, x = .ok a ∧ f a = b := by
  cases x with
  | error e => cases h
  | ok a => exact ⟨a, rfl, Except.ok.inj h⟩

/-- What is read in at most `fuel` steps has distinct keys, if what was read before has. -/
structure ScansDistinct (fuel : Nat) : Prop where
  value : ∀ {room cs v rest}, scanValue Entries.put fuel room cs = .ok (v, rest) → v.KeysDistinct
  items : ∀ {room acc cs vs rest}, (Value.array acc).KeysDistinct →
    scanItems Entries.put fuel room acc cs = .ok (vs, rest) → (Value.array vs).KeysDistinct
  fields : ∀ {room acc cs fs rest}, (Value.object acc).KeysDistinct →
    scanFields Entries.put fuel room acc cs = .ok (fs, rest) → (Value.object fs).KeysDistinct

theorem keysDistinct_of_map {α : Type} {x : Scan α} {f : α → Value × List Char} {v : Value}
    {rest : List Char} (hf : ∀ a, x = .ok a → (f a).1.KeysDistinct) (h : x.map f = .ok (v, rest)) :
    v.KeysDistinct := by
  obtain ⟨a, ha, he⟩ := map_eq_ok h
  have hfine := hf a ha
  rwa [he] at hfine

theorem ScansDistinct.succ_value {fuel : Nat} (h : ScansDistinct fuel) {room : Nat}
    {cs rest : List Char} {v : Value}
    (hv : scanValue Entries.put (fuel + 1) room cs = .ok (v, rest)) : v.KeysDistinct := by
  simp only [scanValue] at hv
  split at hv
  · cases hv
  -- words, strings and numbers first
  iterate 6
    split at hv
    · refine keysDistinct_of_map ?_ hv
      exact fun _ _ => trivial
  split at hv
  · have hnil : (Value.array []).KeysDistinct := trivial
    split at hv
    · cases hv
    split at hv
    · cases hv
      exact hnil
    · cases hv
    · exact keysDistinct_of_map (fun _ hvs => h.items hnil hvs) hv
  split at hv
  · have hnil : (Value.object []).KeysDistinct := ⟨List.nodup_nil, trivial⟩
    split at hv
    · cases hv
    split at hv
    · cases hv
      exact hnil
    · exact keysDistinct_of_map (fun _ hfs => h.fields hnil hfs) hv
    · cases hv
    · cases hv
  · cases hv

theorem ScansDistinct.succ_items {fuel : Nat} (h : ScansDistinct fuel) {room : Nat}
    {cs rest : List Char} {acc vs : List Value} (hacc : (Value.array acc).KeysDistinct)
    (hvs : scanItems Entries.put (fuel + 1) room acc cs = .ok (vs, rest)) :
    (Value.array vs).KeysDistinct := by
  obtain ⟨⟨v, rest₁⟩, hv, hvs⟩ := bind_eq_ok hvs
  obtain ⟨⟨more, rest₂⟩, -, hvs⟩ := bind_eq_ok hvs
  have hcons : (Value.array (v :: acc)).KeysDistinct := ⟨h.value hv, hacc⟩
  cases more with
  | true => exact h.items hcons hvs
  | false =>
    obtain rfl : (v :: acc).reverse = vs := congrArg Prod.fst (Except.ok.inj hvs)
    refine Value.itemsKeysDistinct_iff.mpr fun w hw => ?_
    exact Value.itemsKeysDistinct_iff.mp hcons w (List.mem_reverse.mp hw)

theorem ScansDistinct.succ_fields {fuel : Nat} (h : ScansDistinct fuel) {room : Nat}
    {cs rest : List Char} {acc fs : List (String × Value)} (hacc : (Value.object acc).KeysDistinct)
    (hfs : scanFields Entries.put (fuel + 1) room acc cs = .ok (fs, rest)) :
    (Value.object fs).KeysDistinct := by
  obtain ⟨⟨k, rest₁⟩, -, hfs⟩ := bind_eq_ok hfs
  obtain ⟨rest₂, -, hfs⟩ := bind_eq_ok hfs
  obtain ⟨⟨v, rest₃⟩, hv, hfs⟩ := bind_eq_ok hfs
  obtain ⟨⟨more, rest₄⟩, -, hfs⟩ := bind_eq_ok hfs
  have hput : (Value.object (Entries.put acc k v)).KeysDistinct := hacc.put k (h.value hv)
  cases more with
  | true => exact h.fields hput hfs
  | false =>
    obtain rfl : Entries.put acc k v = fs := congrArg Prod.fst (Except.ok.inj hfs)
    exact hput

theorem scansDistinct (fuel : Nat) : ScansDistinct fuel := by
  induction fuel with
  | zero => constructor <;> simp [scanValue, scanItems, scanFields]
  | succ fuel ih => exact ⟨ih.succ_value, ih.succ_items, ih.succ_fields⟩

end Json

/-- No object of a decoded document holds a key twice. -/
theorem keysDistinct_of_decode {text : String} {v : Value} (h : decode text = .ok v) :
    v.KeysDistinct := by
  unfold decode at h
  split at h
  · cases h
    trivial
  · unfold Json.parse at h
    simp only at h
    split at h
    · rename_i w hparse
      obtain ⟨⟨u, rest⟩, hu, hparse⟩ := Json.bind_eq_ok hparse
      obtain ⟨_, _, hparse⟩ := Json.bind_eq_ok hparse
      cases h
      cases hparse
      exact (Json.scansDistinct _).value hu
    · cases h

end JsonExplorer
