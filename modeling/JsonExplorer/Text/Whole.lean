/-!
Whole numbers of 64 bits in decimal. Zeros may lead, and one plus sign may stand in front. What is
read is said in full (`whole_eq_ok_iff`, `wholeFrom_eq_ok_iff`).
-/

namespace JsonExplorer.Text

inductive WholeFault where
  | empty
  | notDigit
  | tooLarge
  deriving DecidableEq, Repr

def WholeFault.message : WholeFault → String
  | empty => "cannot parse integer from empty string"
  | notDigit => "invalid digit found in string"
  | tooLarge => "number too large to fit in target type"

/-- Goes on from the number read so far. The first character that is out of place decides. -/
def wholeFrom (n : Nat) : List Char → Except WholeFault Nat
  | [] => .ok n
  | c :: rest =>
    if c.isDigit then
      let m := 10 * n + (c.toNat - 48)
      if m < UInt64.size then wholeFrom m rest else .error .tooLarge
    else .error .notDigit

def whole : List Char → Except WholeFault Nat
  | [] => .error .empty
  | ['+'] => .error .notDigit
  | '+' :: rest => wholeFrom 0 rest
  | cs => wholeFrom 0 cs

/-! ## Digits -/

theorem isDigit_of_mem_digits {i : Nat} {d : Char} (hd : d ∈ Nat.toDigits 10 i) :
    d.isDigit = true :=
  Nat.isDigit_of_mem_toDigits (by decide) (by decide) hd

/-- Only zero is written with a zero in front. -/
theorem digits_eq_cons (n : Nat) :
    ∃ c ds, Nat.toDigits 10 n = c :: ds ∧ c.isDigit = true ∧ (c = '0' → n = 0 ∧ ds = []) := by
  induction n using Nat.strongRecOn with
  | ind n ih =>
    rw [Nat.toDigits_eq_if (by decide)]
    split
    · rename_i hn
      have hall : ∀ n < 10, (Nat.digitChar n).isDigit = true ∧
          (Nat.digitChar n = '0' → n = 0) := by decide
      exact ⟨_, [], rfl, (hall n hn).1, fun h => ⟨(hall n hn).2 h, rfl⟩⟩
    · rename_i hn
      obtain ⟨c, ds, hds, hdigit, hzero⟩ := ih (n / 10) (by omega)
      refine ⟨c, ds ++ [Nat.digitChar (n % 10)], by rw [hds]; rfl, hdigit, fun h => ?_⟩
      have := (hzero h).1
      omega

theorem takeWhile_digits {digits rest : List Char} (hd : ∀ d ∈ digits, d.isDigit = true)
    (hrest : ∀ c ∈ rest.head?, c.isDigit = false) :
    (digits ++ rest).takeWhile Char.isDigit = digits := by
  rw [List.takeWhile_append_of_pos hd]
  cases rest with
  | nil => simp
  | cons c rest => simp [hrest c rfl]

theorem dropWhile_digits {digits rest : List Char} (hd : ∀ d ∈ digits, d.isDigit = true)
    (hrest : ∀ c ∈ rest.head?, c.isDigit = false) :
    (digits ++ rest).dropWhile Char.isDigit = rest := by
  rw [List.dropWhile_append_of_pos hd]
  cases rest with
  | nil => simp
  | cons c rest => simp [hrest c rfl]

theorem digits_injective {i j : Nat} (h : Nat.toDigits 10 i = Nat.toDigits 10 j) : i = j := by
  have hvalue := congrArg (Nat.ofDigitChars 10 · 0) h
  simpa using hvalue

/-- No number on the way is larger than the one at the end. -/
theorem le_ofDigitChars (digits : List Char) (m : Nat) : m ≤ Nat.ofDigitChars 10 digits m := by
  rw [Nat.ofDigitChars_eq_ofDigitChars_zero]
  exact Nat.le_add_right_of_le (Nat.le_mul_of_pos_left m (Nat.pow_pos (by decide)))

/-! ## What is read -/

/-- What is read from `n` on are digits, and the number they stand for fits 64 bits. -/
theorem wholeFrom_eq_ok_iff {cs : List Char} {n i : Nat} (hn : n < UInt64.size) :
    wholeFrom n cs = .ok i ↔
      (∀ d ∈ cs, d.isDigit = true) ∧ Nat.ofDigitChars 10 cs n = i ∧ i < UInt64.size := by
  induction cs generalizing n with
  | nil =>
    simp only [wholeFrom, Except.ok.injEq, List.not_mem_nil, Nat.ofDigitChars_nil]
    constructor
    · rintro rfl
      exact ⟨by simp, rfl, hn⟩
    · exact fun h => h.2.1
  | cons c rest ih =>
    have hzero : '0'.toNat = 48 := rfl
    rw [List.forall_mem_cons, Nat.ofDigitChars_cons, hzero]
    by_cases hc : c.isDigit = true
    · by_cases hstep : 10 * n + (c.toNat - 48) < UInt64.size
      · simp only [wholeFrom, hc, hstep, ↓reduceIte, ih hstep, true_and]
      · simp only [wholeFrom, hc, hstep, ↓reduceIte, reduceCtorEq, false_iff]
        rintro ⟨-, rfl, hfits⟩
        exact hstep (Nat.lt_of_le_of_lt (le_ofDigitChars rest _) hfits)
    · simp [wholeFrom, hc]

/-- Whole numbers are read with a plus sign in front and without one. -/
theorem whole_eq_ok_iff {text : List Char} {i : Nat} : whole text = .ok i ↔
    ∃ digits, (text = digits ∨ text = '+' :: digits) ∧ digits ≠ [] ∧
      wholeFrom 0 digits = .ok i := by
  constructor
  · intro h
    unfold whole at h
    split at h
    · cases h
    · cases h
    · rename_i digits hne
      exact ⟨digits, Or.inr rfl, fun hnil => hne (by rw [hnil]), h⟩
    · rename_i hne _ _
      exact ⟨text, Or.inl rfl, hne, h⟩
  · rintro ⟨digits, rfl | rfl, hne, h⟩
    · unfold whole
      split
      · exact absurd rfl hne
      · cases h
      · cases h
      · exact h
    · cases digits with
      | nil => exact absurd rfl hne
      | cons d more => exact h

end JsonExplorer.Text
