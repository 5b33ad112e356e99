import JsonExplorer.Outline
import JsonExplorer.Proofs.Path.Steps

/-!
The name shown for a path. It is read off the text from the right: the digits of a bracketed number
that ends the path, or else what stands behind the last dot. So an item is called by its index, and
a field by its key exactly if that has no dot and does not end like an item, whatever the path
before it holds (`name_is_last_segment`). At the end of clean steps the name is that of the last
step (`name_ofSteps`).
-/

namespace JsonExplorer.Path

/-- What the last step to a node calls it: its key or its index. The root has a name of its own. -/
def ownName (steps : List Step) : String :=
  match steps.getLast? with
  | some s => Outline.Step.label s
  | none => root

theorem afterLast_eq_none_iff {x : Char} {cs : List Char} : afterLast x cs = none ↔ x ∉ cs := by
  induction cs with
  | nil => simp [afterLast]
  | cons c rest ih =>
    simp only [afterLast, List.mem_cons, not_or]
    cases h : afterLast x rest with
    | none => simp [ih.mp h, eq_comm]
    | some after =>
      have hmem : x ∈ rest := Classical.byContradiction fun hnot => by simp [ih.mpr hnot] at h
      simp [hmem]

theorem afterLast_append {x : Char} (before : List Char) {after : List Char} (h : x ∉ after) :
    afterLast x (before ++ x :: after) = some after := by
  induction before with
  | nil => simp [afterLast, afterLast_eq_none_iff.mpr h]
  | cons c before ih => simp [afterLast, ih]

/-- What stands behind the last `x` is cut off at the last place where `x` stands. -/
theorem afterLast_eq_some_iff {x : Char} {cs after : List Char} :
    afterLast x cs = some after ↔ x ∉ after ∧ ∃ before, cs = before ++ x :: after := by
  constructor
  · intro h
    induction cs with
    | nil => simp [afterLast] at h
    | cons c rest ih =>
      simp only [afterLast] at h
      split at h
      · rename_i found hfound
        obtain ⟨hx, before, hrest⟩ := ih (by rw [hfound, h])
        exact ⟨hx, c :: before, by rw [hrest]; rfl⟩
      · rename_i hnone
        split at h
        · rename_i hc
          obtain rfl := Option.some.inj h
          exact ⟨afterLast_eq_none_iff.mp hnone, [], by rw [hc]; rfl⟩
        · cases h
  · rintro ⟨hx, before, rfl⟩
    exact afterLast_append before hx

theorem bracketedDigits?_eq_some_iff {cs digits : List Char} :
    bracketedDigits? cs = some digits ↔
      cs = digits ++ [']'] ∧ digits ≠ [] ∧ ∀ d ∈ digits, d.isDigit = true := by
  unfold bracketedDigits?
  constructor
  · intro h
    simp only at h
    split at h
    · rename_i hcs
      obtain rfl := Option.some.inj h
      refine ⟨?_, hcs.1, List.all_eq_true.mp List.all_takeWhile⟩
      rw [← hcs.2, List.takeWhile_append_dropWhile]
    · cases h
  · rintro ⟨rfl, hne, hd⟩
    simp [List.takeWhile_append_of_pos hd, List.dropWhile_append_of_pos hd, hne]

/-- A text that ends like an item: in a bracketed number. -/
def EndsInIndex (key : List Char) : Prop :=
  ∃ before digits, key = before ++ '[' :: (digits ++ [']']) ∧ digits ≠ [] ∧
    ∀ d ∈ digits, d.isDigit = true

/-- A path that ends in a bracketed number is called by the number. -/
theorem name_of_index {path : String} {before digits : List Char}
    (hpath : path.toList = before ++ '[' :: (digits ++ [']'])) (hne : digits ≠ [])
    (hd : ∀ d ∈ digits, d.isDigit = true) : name path = String.ofList digits := by
  have hbracket : '[' ∉ digits ++ [']'] := by
    intro hm
    rcases List.mem_append.mp hm with hm | hm
    · have := hd _ hm
      simp at this
    · simp at hm
  have hdigits : bracketedDigits? (digits ++ [']']) = some digits :=
    bracketedDigits?_eq_some_iff.mpr ⟨rfl, hne, hd⟩
  rw [name, nameChars, hpath, afterLast_append _ hbracket, Option.bind_some, hdigits]

/-- An item is called by its index. -/
theorem name_childIndex (parent : String) (i : Nat) :
    name (childIndex parent i) = toString i := by
  have hchars : (childIndex parent i).toList =
      parent.toList ++ '[' :: (Nat.toDigits 10 i ++ [']']) := by simp [childIndex]
  rw [name_of_index hchars Nat.toDigits_ne_nil fun d hd => Text.isDigit_of_mem_digits hd]
  rfl

theorem toList_childKey (parent key : String) :
    (childKey parent key).toList = parent.toList ++ '.' :: key.toList := by
  simp [childKey]

/-- A field whose key ends like an item is called by the number in it. -/
theorem name_childKey_of_index (parent : String) {key : String} {before digits : List Char}
    (hkey : key.toList = before ++ '[' :: (digits ++ [']'])) (hne : digits ≠ [])
    (hd : ∀ d ∈ digits, d.isDigit = true) : name (childKey parent key) = String.ofList digits := by
  have hpath : (childKey parent key).toList =
      (parent.toList ++ '.' :: before) ++ '[' :: (digits ++ [']']) := by
    rw [toList_childKey, hkey, List.append_assoc, List.cons_append]
  exact name_of_index hpath hne hd

/-- Behind a dot, only a key that ends like an item is taken for one. -/
theorem bind_bracketedDigits?_childKey (parent : List Char) {key : List Char}
    (h : ¬ EndsInIndex key) :
    (afterLast '[' (parent ++ '.' :: key)).bind bracketedDigits? = none := by
  rw [Option.bind_eq_none_iff]
  intro after hafter
  rw [Option.eq_none_iff_forall_ne_some]
  intro digits hdigits
  obtain ⟨hbracket, before, hbefore⟩ := afterLast_eq_some_iff.mp hafter
  obtain ⟨rfl, hne, hd⟩ := bracketedDigits?_eq_some_iff.mp hdigits
  -- the last bracket stands in the key, or in the parent with the dot behind it
  rcases List.append_eq_append_iff.mp hbefore with ⟨more, rfl, hmore⟩ | ⟨more, rfl, hmore⟩
  · cases more with
    | nil => simp at hmore
    | cons c more => exact h ⟨more, digits, (List.cons.inj hmore).2, hne, hd⟩
  · cases more with
    | nil => simp at hmore
    | cons c more =>
      have hdot : '.' ∈ digits ++ [']'] := by
        rw [(List.cons.inj hmore).2]
        simp
      rcases List.mem_append.mp hdot with hm | hm
      · have := hd _ hm
        simp at this
      · simp at hm

/-- Any other field is called by what stands behind the last dot, that before its key included. -/
theorem name_childKey_of_dot (parent : String) {key : String} (hend : ¬ EndsInIndex key.toList)
    {before after : List Char} (hkey : '.' :: key.toList = before ++ '.' :: after)
    (hafter : '.' ∉ after) : name (childKey parent key) = String.ofList after := by
  rw [name, nameChars, toList_childKey, bind_bracketedDigits?_childKey _ hend, hkey,
    ← List.append_assoc, afterLast_append _ hafter, Option.getD_some]

/-- A field is called by its key, if that holds no dot and does not end like an item. -/
theorem name_childKey (parent : String) {key : String} (hdot : '.' ∉ key.toList)
    (hend : ¬ EndsInIndex key.toList) : name (childKey parent key) = key := by
  rw [name_childKey_of_dot parent hend (List.nil_append _).symm hdot, String.ofList_toList]

/-- A dot or a number at the end takes something off the key. -/
theorem length_name_childKey_lt (parent : String) {key : String}
    (h : '.' ∈ key.toList ∨ EndsInIndex key.toList) :
    (name (childKey parent key)).toList.length < key.toList.length := by
  by_cases hend : EndsInIndex key.toList
  · obtain ⟨before, digits, hkey, hne, hd⟩ := hend
    rw [name_childKey_of_index parent hkey hne hd, String.toList_ofList, hkey]
    simp only [List.length_append, List.length_cons]
    omega
  · have hsome : afterLast '.' key.toList ≠ none := fun hnone =>
      afterLast_eq_none_iff.mp hnone (h.resolve_right hend)
    obtain ⟨after, hlast⟩ := Option.ne_none_iff_exists'.mp hsome
    obtain ⟨hafter, before, hkey⟩ := afterLast_eq_some_iff.mp hlast
    have hdotted : '.' :: key.toList = ('.' :: before) ++ '.' :: after := by
      rw [hkey, List.cons_append]
    rw [name_childKey_of_dot parent hend hdotted hafter, String.toList_ofList, hkey]
    simp only [List.length_append, List.length_cons]
    omega

/-- **The name of a path is its last segment.** Behind any text, an item is called by its index, and
a field is called by its key exactly if the key holds no dot and does not end in a bracketed
number. -/
theorem name_is_last_segment (parent : String) :
    (∀ i, name (childIndex parent i) = toString i) ∧
    ∀ key, name (childKey parent key) = key ↔
      '.' ∉ key.toList ∧ ¬ EndsInIndex key.toList := by
  refine ⟨name_childIndex parent, fun key => ⟨fun hname => ?_, fun ⟨hdot, hend⟩ => ?_⟩⟩
  · have hwhole : ¬ ('.' ∈ key.toList ∨ EndsInIndex key.toList) := fun h => by
      have hlt := length_name_childKey_lt parent h
      rw [hname] at hlt
      exact Nat.lt_irrefl _ hlt
    exact not_or.mp hwhole
  · exact name_childKey parent hdot hend

/-- Brackets in the parent or in front of the key do no harm, at its end they do. -/
example : name (childKey "a[1]" "[2]b]") = "[2]b]" ∧ name (childKey "a[" "1]") = "1]" ∧
    name (childKey "a" "b[2]") = "2" := by decide

theorem CleanKey.not_endsInIndex {key : String} (h : CleanKey key) : ¬ EndsInIndex key.toList := by
  rintro ⟨before, digits, he, hne, hd⟩
  rcases h.2 before digits [] he with hnil | ⟨d, hm, hdigit⟩
  · exact hne hnil
  · simp [hd d hm] at hdigit

/-- Clean steps lead to a node that is called by the last of them. -/
theorem name_ofSteps {steps : List Step} (h : ∀ s ∈ steps, s.Clean) :
    name (ofSteps steps) = ownName steps := by
  rcases List.eq_nil_or_concat steps with rfl | ⟨before, s, rfl⟩
  · decide
  · rw [List.concat_eq_append] at h ⊢
    have hs : s.Clean := h s (by simp)
    rw [ofSteps_concat, ownName, List.getLast?_concat]
    cases s with
    | key k => exact name_childKey _ hs.1 hs.not_endsInIndex
    | index i => exact name_childIndex _ i

end JsonExplorer.Path
