import JsonExplorer.Proofs.Text.Words

/-!
Upper case. Upper-casing a character may give several, but the first of them is its own upper-case
form (`exists_upperChar_eq_cons`), so that a text that has been capitalized stays as it is when it
is capitalized again (`capitalizeChars_capitalizeChars`). This is read off the tables: no code point
with which an upper-case form begins has another one itself (`uppercaseHeads_settled`).
-/

namespace JsonExplorer.Text

variable {c : Char} {n : Nat}

/-! ## Going through the tables -/

/-- The numbers of a list as the bits of one number. -/
def bits (ns : List Nat) : Nat := ns.foldr (fun n m => Nat.pow 2 n ||| m) 0

theorem testBit_bits {ns : List Nat} (hn : n ∈ ns) : (bits ns).testBit n = true := by
  induction ns with
  | nil => cases hn
  | cons a rest ih =>
    have hbits : bits (a :: rest) = 2 ^ a ||| bits rest := rfl
    rw [hbits, Nat.testBit_or, Bool.or_eq_true]
    rcases List.mem_cons.mp hn with rfl | hn
    · exact Or.inl Nat.testBit_two_pow_self
    · exact Or.inr (ih hn)

/-- Lists without a common bit have no number in common. -/
theorem notMem_of_bits {ns ns' : List Nat} (h : bits ns &&& bits ns' = 0) (hn : n ∈ ns) :
    n ∉ ns' := by
  intro hn'
  have hboth : (bits ns &&& bits ns').testBit n = true := by
    rw [Nat.testBit_and, testBit_bits hn, testBit_bits hn', Bool.and_self]
  rw [h, Nat.zero_testBit] at hboth
  cases hboth

/-- The code points with an upper-case form other than themselves. -/
def raised : List Nat :=
  uppercaseRuns.toList.flatMap CaseRun.points ++ longUppercase.toList.map (·.1)

/-- The code points with which these forms begin. -/
def uppercaseHeads : List Nat :=
  uppercaseRuns.toList.flatMap CaseRun.images ++ longUppercase.toList.filterMap (·.2.head?)

/-- What the tables are gone through for. No code point with which a form begins has another form
itself, each of them is a character, and no form is empty. -/
theorem uppercaseHeads_settled : bits uppercaseHeads &&& bits raised = 0 ∧
    (∀ m ∈ uppercaseHeads, m.isValidChar) ∧ ∀ row ∈ longUppercase.toList, row.2 ≠ [] := by
  -- by their bits, since to look up each of the code points would take too long
  decide +kernel

/-! ## Upper case -/

theorem upperChar_cases (c : Char) : upperChar c = [c] ∨
    (∃ m, imageIn uppercaseRuns c.toNat = some m ∧ upperChar c = [Char.ofNat m]) ∨
    ∃ row ∈ longUppercase.toList, row.1 = c.toNat ∧ upperChar c = row.2.map Char.ofNat := by
  have hsingle : upperChar.single c = [c] ∨
      ∃ m, imageIn uppercaseRuns c.toNat = some m ∧ upperChar.single c = [Char.ofNat m] := by
    unfold upperChar.single
    cases imageIn uppercaseRuns c.toNat with
    | none => exact Or.inl rfl
    | some m => exact Or.inr ⟨m, rfl, rfl⟩
  unfold upperChar
  split
  · rename_i code image hrow
    split
    · rename_i hcode
      have hmem : (code, image) ∈ longUppercase.toList :=
        Array.mem_toList_iff.mpr (Array.mem_of_getElem? hrow)
      exact Or.inr (Or.inr ⟨_, hmem, hcode, rfl⟩)
    · exact hsingle.imp_right Or.inl
  · exact hsingle.imp_right Or.inl

theorem upperChar_eq_self (h : c.toNat ∉ raised) : upperChar c = [c] := by
  rcases upperChar_cases c with hself | ⟨m, hm, -⟩ | ⟨row, hrow, hcode, -⟩
  · exact hself
  · obtain ⟨r, hr, hpoint, -⟩ := imageIn_eq_some hm
    exact absurd (List.mem_append_left _ (List.mem_flatMap.mpr ⟨r, hr, hpoint⟩)) h
  · exact absurd (List.mem_append_right _ (List.mem_map.mpr ⟨row, hrow, hcode⟩)) h

theorem upperChar_of_mem_heads {m : Nat} (hm : m ∈ uppercaseHeads) :
    upperChar (Char.ofNat m) = [Char.ofNat m] := by
  obtain ⟨hbits, hvalid, -⟩ := uppercaseHeads_settled
  refine upperChar_eq_self ?_
  rw [toNat_ofNat_of_isValidChar (hvalid m hm)]
  exact notMem_of_bits hbits hm

/-- The upper-case form of a character begins with a character that is its own. -/
theorem exists_upperChar_eq_cons (c : Char) :
    ∃ d ds, upperChar c = d :: ds ∧ upperChar d = [d] := by
  rcases upperChar_cases c with hself | ⟨m, hm, hform⟩ | ⟨row, hrow, -, hform⟩
  · exact ⟨c, [], hself, hself⟩
  · obtain ⟨r, hr, -, himage, -⟩ := imageIn_eq_some hm
    have hhead : m ∈ uppercaseHeads :=
      List.mem_append_left _ (List.mem_flatMap.mpr ⟨r, hr, himage⟩)
    exact ⟨Char.ofNat m, [], hform, upperChar_of_mem_heads hhead⟩
  · obtain ⟨m, more, hmore⟩ := List.exists_cons_of_ne_nil (uppercaseHeads_settled.2.2 row hrow)
    have hhead : m ∈ uppercaseHeads :=
      List.mem_append_right _ (List.mem_filterMap.mpr ⟨row, hrow, by rw [hmore]; rfl⟩)
    exact ⟨Char.ofNat m, more.map Char.ofNat, by rw [hform, hmore, List.map_cons],
      upperChar_of_mem_heads hhead⟩

/-! ## Capitalizing -/

theorem capitalizeChars_append {cs : List Char} (h : cs ≠ []) (more : List Char) :
    capitalizeChars (cs ++ more) = capitalizeChars cs ++ more := by
  cases cs with
  | nil => exact absurd rfl h
  | cons c rest => simp [capitalizeChars]

theorem capitalizeChars_ne_nil {cs : List Char} (h : cs ≠ []) : capitalizeChars cs ≠ [] := by
  cases cs with
  | nil => exact absurd rfl h
  | cons c rest =>
    obtain ⟨d, ds, hupper, -⟩ := exists_upperChar_eq_cons c
    simp [capitalizeChars, hupper]

theorem capitalizeChars_capitalizeChars (cs : List Char) :
    capitalizeChars (capitalizeChars cs) = capitalizeChars cs := by
  cases cs with
  | nil => rfl
  | cons c rest =>
    obtain ⟨d, ds, hupper, hself⟩ := exists_upperChar_eq_cons c
    simp [capitalizeChars, hupper, hself]

end JsonExplorer.Text
