import JsonExplorer.Proofs.Shape.Registrations
import JsonExplorer.Proofs.Text.Upper
import Mathlib.Data.List.DropRight
import Mathlib.Logic.Function.Iterate

/-!
Names in nested arrays. Each level of a nest of arrays is called by the singular of the level around
it. The name first loses every final `s`, and from then on it grows by `Item`, so that it gets
further at each level (`progress_lt_singularChars`) and none comes twice
(`nested_arrays_take_new_names`). Only the first singular can change how a name begins: it makes the
name a capital one, and those are left alone.
-/

namespace JsonExplorer.Shape

open Text (capitalizeChars)

variable {name : List Char}

/-! ## Singulars -/

/-- Capitalizing the name does not change it. -/
def IsCapital (name : List Char) : Prop := capitalizeChars name = name

instance (name : List Char) : Decidable (IsCapital name) :=
  inferInstanceAs (Decidable (capitalizeChars name = name))

theorem isCapital_append_iff (hname : name ≠ []) (more : List Char) :
    IsCapital (name ++ more) ↔ IsCapital name := by
  rw [IsCapital, Text.capitalizeChars_append hname, List.append_left_inj, IsCapital]

theorem isCapital_item : IsCapital "Item".toList := by decide +kernel

theorem not_isCapital_s : ¬ IsCapital ['s'] := by decide +kernel

theorem singularChars_concat_s (hname : name ≠ []) :
    singularChars (name ++ ['s']) = capitalizeChars name := by
  have hlength : (name ++ ['s']).length ≠ 1 := by simpa using hname
  simp only [singularChars, List.getLast?_concat, if_neg hlength, List.dropLast_concat]

theorem singularChars_concat_of_ne {c : Char} (hc : c ≠ 's') :
    singularChars (name ++ [c]) = capitalizeChars (name ++ [c]) ++ "Item".toList := by
  simp only [singularChars, List.getLast?_concat]
  split
  · rename_i hlast
    exact absurd (Option.some.inj hlast) hc
  · rfl

theorem isCapital_singularChars (name : List Char) : IsCapital (singularChars name) := by
  have hitem : IsCapital (capitalizeChars name ++ "Item".toList) := by
    by_cases hname : name = []
    · rw [hname]
      exact isCapital_item
    · exact (isCapital_append_iff (Text.capitalizeChars_ne_nil hname) _).mpr
        (Text.capitalizeChars_capitalizeChars name)
  unfold singularChars
  split
  · split
    · exact hitem
    · exact Text.capitalizeChars_capitalizeChars _
  · exact hitem

/-! ## Progress -/

/-- The number of `s` at the end of a name. -/
def finalS (name : List Char) : Nat := (name.rtakeWhile (· == 's')).length

theorem finalS_concat (name : List Char) (c : Char) :
    finalS (name ++ [c]) = if c = 's' then finalS name + 1 else 0 := by
  by_cases hc : c = 's' <;> simp [finalS, hc]

theorem finalS_append_item (name : List Char) : finalS (name ++ "Item".toList) = 0 := by
  have hlast : name ++ "Item".toList = name ++ "Ite".toList ++ ['m'] := by simp
  rw [hlast, finalS_concat]
  exact if_neg (by decide)

/-- How far a name has come. Each final `s` is to be taken off before it starts to grow. -/
def progress (name : List Char) : Int :=
  if finalS name = 0 then name.length else -finalS name

theorem progress_lt_singularChars (h : IsCapital name) :
    progress name < progress (singularChars name) := by
  rcases List.eq_nil_or_concat name with rfl | ⟨front, c, rfl⟩
  · decide
  rw [List.concat_eq_append] at h ⊢
  by_cases hc : c = 's'
  · subst hc
    have hfront : front ≠ [] := fun hnil => not_isCapital_s (by
      rw [hnil, List.nil_append] at h
      exact h)
    have hcapital : capitalizeChars front = front := (isCapital_append_iff hfront _).mp h
    rw [singularChars_concat_s hfront, hcapital, progress, progress, finalS_concat, if_pos rfl]
    split <;> omega
  · have hcapital : capitalizeChars (front ++ [c]) = front ++ [c] := h
    rw [singularChars_concat_of_ne hc, hcapital, progress, progress, finalS_concat, if_neg hc,
      finalS_append_item]
    simp

theorem isCapital_iterate (h : IsCapital name) (depth : Nat) :
    IsCapital (singularChars^[depth] name) := by
  cases depth with
  | zero => exact h
  | succ depth =>
    rw [Function.iterate_succ_apply']
    exact isCapital_singularChars _

/-- From a capital name on, each singular gets further. -/
theorem progress_iterate_lt (h : IsCapital name) {i j : Nat} (hij : i < j) :
    progress (singularChars^[i] name) < progress (singularChars^[j] name) := by
  have hstep : ∀ depth,
      progress (singularChars^[depth] name) < progress (singularChars^[depth + 1] name) := by
    intro depth
    rw [Function.iterate_succ_apply']
    exact progress_lt_singularChars (isCapital_iterate h depth)
  induction hij with
  | refl => exact hstep i
  | step _ ih => exact Int.lt_trans ih (hstep _)

theorem IsCapital.iterate_ne (h : IsCapital name) {i j : Nat} (hij : i < j) :
    singularChars^[i] name ≠ singularChars^[j] name := fun he =>
  Int.ne_of_lt (progress_iterate_lt h hij) (congrArg progress he)

theorem iterate_singularChars_ne (name : List Char) {i j : Nat} (hij : i < j) :
    singularChars^[i] name ≠ singularChars^[j] name := by
  by_cases hname : IsCapital name
  · exact hname.iterate_ne hij
  -- the name at the start is the only one that need not be capital
  have hfirst : IsCapital (singularChars name) := isCapital_singularChars name
  obtain ⟨j, rfl⟩ := Nat.exists_eq_succ_of_ne_zero (Nat.ne_zero_of_lt hij)
  cases i with
  | zero =>
    intro he
    have hcapital : IsCapital (singularChars^[0] name) := by
      rw [he, Function.iterate_succ_apply]
      exact isCapital_iterate hfirst j
    exact hname hcapital
  | succ i => exact hfirst.iterate_ne (Nat.lt_of_succ_lt_succ hij)

/-! ## Nests of arrays -/

theorem iterate_singularName (name : String) (depth : Nat) :
    singularName^[depth] name = String.ofList (singularChars^[depth] name.toList) := by
  have hsemi : Function.Semiconj String.ofList singularChars singularName := fun cs => by
    rw [singularName, String.toList_ofList]
  rw [hsemi.iterate_right depth, String.ofList_toList]

theorem iterate_singularName_ne (name : String) {i j : Nat} (h : i < j) :
    singularName^[i] name ≠ singularName^[j] name := by
  intro he
  rw [iterate_singularName, iterate_singularName] at he
  have hchars := congrArg String.toList he
  rw [String.toList_ofList, String.toList_ofList] at hchars
  exact iterate_singularChars_ne name.toList h hchars

/-- In a nest of arrays, what stands behind some indices is called by as many singulars. -/
theorem nameAt_indices (name : String) (nest : List Step) (indices : List Nat) :
    nameAt name (nest ++ indices.map .index) =
      singularName^[indices.length] (nameAt name nest) := by
  induction indices using List.reverseRecOn with
  | nil => simp
  | append_singleton front i ih =>
    rw [List.map_append, ← List.append_assoc, List.map_singleton, nameAt_append_singleton, ih,
      List.length_append, List.length_singleton, Function.iterate_succ_apply']
    rfl

theorem registration?_eq_some {name : String} {isRoot : Bool} {steps : List Step} {v : Value}
    {e : String × Shape} (h : registration? name isRoot (steps, v) = some e) :
    e.1 = nameAt name steps := by
  cases v with
  | object fields =>
    simp only [registration?, Option.ite_none_left_eq_some, Option.some.injEq] at h
    rw [← h.2]
  | _ => simp [registration?] at h

/-- **Nested arrays take new names.** Of the names that come of taking the singular again and again,
no two are the same. So the objects in a nest of arrays, wherever in a document it stands, are not
registered under the same name if they stand behind different numbers of indices. -/
theorem nested_arrays_take_new_names (name : String) :
    (∀ i j, i < j → singularName^[i] name ≠ singularName^[j] name) ∧
    singularName name ≠ name ∧
    ∀ (isRoot : Bool) (nest : List Step) (outer inner : List Nat) (v w : Value),
      outer.length < inner.length →
      ∀ e ∈ registration? name isRoot (nest ++ outer.map .index, v),
      ∀ e' ∈ registration? name isRoot (nest ++ inner.map .index, w), e.1 ≠ e'.1 := by
  refine ⟨fun i j h => iterate_singularName_ne name h,
    (iterate_singularName_ne name Nat.zero_lt_one).symm, ?_⟩
  intro isRoot nest outer inner v w hdepth e he e' he'
  rw [registration?_eq_some he, registration?_eq_some he', nameAt_indices, nameAt_indices]
  exact iterate_singularName_ne (nameAt name nest) hdepth

/-- A name that is made longer by its capital, while it still loses an `s`. -/
theorem nested_arrays_take_new_names_sharp_s :
    let nested : Value := .array [.object [], .array [.object []], .array [.array [.object []]]]
    (infer [] "ßss" false nested).2 =
        [("SSs", object []), ("SS", object []), ("SSItem", object [])] ∧
      singularName^[1] "ßss" ≠ singularName^[3] "ßss" ∧ "SSs" ≠ "SSItem" := by
  intro nested
  obtain ⟨hnames, -, hobjects⟩ := nested_arrays_take_new_names "ßss"
  have houter : registration? "ßss" false ([.index 0], .object []) =
      some ("SSs", object []) := by decide +kernel
  have hinner : registration? "ßss" false ([.index 2, .index 0, .index 0], .object []) =
      some ("SSItem", object []) := by decide +kernel
  exact ⟨by decide +kernel, hnames 1 3 (by decide),
    hobjects false [] [0] [2, 0, 0] _ _ (by decide) _ houter _ hinner⟩

end JsonExplorer.Shape
