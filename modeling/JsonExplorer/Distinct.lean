import Std.Data.HashSet

/-!
First occurrences. A list of strings that stands for an ordered set keeps each string where it
first appears and drops every later repeat.
-/

namespace JsonExplorer

/-- Drops what is in `seen` or came earlier in the list. -/
def distinctFrom (seen : Std.HashSet String) : List String → List String
  | [] => []
  | s :: rest =>
    if s ∈ seen then distinctFrom seen rest else s :: distinctFrom (seen.insert s) rest

/-- The strings of the list without repeats, in order of first appearance. -/
def distinct (ss : List String) : List String := distinctFrom ∅ ss

theorem mem_distinctFrom {seen : Std.HashSet String} {ss : List String} {s : String} :
    s ∈ distinctFrom seen ss ↔ s ∈ ss ∧ s ∉ seen := by
  induction ss generalizing seen with
  | nil => simp [distinctFrom]
  | cons a rest ih =>
    by_cases ha : a ∈ seen
    · simp only [distinctFrom, ha, if_true, ih, List.mem_cons]
      constructor
      · rintro ⟨h, hs⟩; exact ⟨Or.inr h, hs⟩
      · rintro ⟨rfl | h, hs⟩
        · exact absurd ha hs
        · exact ⟨h, hs⟩
    · simp only [distinctFrom, ha, if_false, List.mem_cons, ih, Std.HashSet.mem_insert]
      constructor
      · rintro (rfl | ⟨h, hs⟩)
        · exact ⟨Or.inl rfl, ha⟩
        · exact ⟨Or.inr h, fun hin => hs (Or.inr hin)⟩
      · rintro ⟨rfl | h, hs⟩
        · exact Or.inl rfl
        · by_cases hsa : a = s
          · exact Or.inl hsa.symm
          · exact Or.inr ⟨h, by simp [hsa, hs]⟩

theorem mem_distinct {ss : List String} {s : String} : s ∈ distinct ss ↔ s ∈ ss := by
  simp [distinct, mem_distinctFrom]

theorem nodup_distinctFrom (seen : Std.HashSet String) (ss : List String) :
    (distinctFrom seen ss).Nodup := by
  induction ss generalizing seen with
  | nil => simp [distinctFrom]
  | cons a rest ih =>
    by_cases ha : a ∈ seen
    · simp [distinctFrom, ha, ih]
    · simp [distinctFrom, ha, ih, mem_distinctFrom]

theorem nodup_distinct (ss : List String) : (distinct ss).Nodup := nodup_distinctFrom ∅ ss

theorem distinctFrom_eq_self {seen : Std.HashSet String} {ss : List String} (hd : ss.Nodup)
    (hs : ∀ s ∈ ss, s ∉ seen) : distinctFrom seen ss = ss := by
  induction ss generalizing seen with
  | nil => rfl
  | cons a rest ih =>
    obtain ⟨ha, hrest⟩ := List.nodup_cons.1 hd
    obtain ⟨has, hsrest⟩ := List.forall_mem_cons.1 hs
    have hnew : ∀ s ∈ rest, s ∉ seen.insert a := by
      rintro s hm hin
      rcases Std.HashSet.mem_insert.1 hin with he | hin
      · exact ha (by simpa [eq_of_beq he] using hm)
      · exact hsrest s hm hin
    simp [distinctFrom, has, ih hrest hnew]

theorem distinct_eq_self {ss : List String} (hd : ss.Nodup) : distinct ss = ss :=
  distinctFrom_eq_self hd (by simp)

theorem distinctFrom_eq_eraseDups (seen : Std.HashSet String) (ss : List String) :
    distinctFrom seen ss = (ss.filter fun s => !seen.contains s).eraseDups := by
  induction ss generalizing seen with
  | nil => rfl
  | cons a rest ih =>
    by_cases ha : a ∈ seen
    · simp [distinctFrom, ha, ih]
    · have hhead : ((a :: rest).filter fun s => !seen.contains s) =
          a :: rest.filter fun s => !seen.contains s := List.filter_cons_of_pos (by simpa using ha)
      have hrest : (rest.filter fun s => !(seen.insert a).contains s) =
          (rest.filter fun s => !seen.contains s).filter fun s => !s == a := by
        rw [List.filter_filter]
        refine List.filter_congr fun s _ => ?_
        rw [Std.HashSet.contains_insert, Bool.not_or, Bool.beq_comm]
      rw [distinctFrom, if_neg ha, ih, hrest, hhead, List.eraseDups_cons]

/-- Of equal strings the first is kept. -/
theorem distinct_eq_eraseDups (ss : List String) : distinct ss = ss.eraseDups := by
  rw [distinct, distinctFrom_eq_eraseDups, List.filter_eq_self.2 fun s _ => by simp]

end JsonExplorer
