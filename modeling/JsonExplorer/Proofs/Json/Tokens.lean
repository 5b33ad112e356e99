import JsonExplorer.Json.Decode
import JsonExplorer.Json.Encode
import JsonExplorer.Text.Whole

/-!
Tokens that were written are read back: strings with their escapes (`scanString_quoteChars`) and
integers within the 64-bit limits (`scanNumber_digits`), each with what follows them left over.
Blanks in front of a token are passed over.
-/

namespace JsonExplorer.Json

/-! ## Blanks and ends -/

theorem skipSpace_append {gap : List Char} (h : ∀ c ∈ gap, isSpace c = true) (cs : List Char) :
    skipSpace (gap ++ cs) = skipSpace cs :=
  List.dropWhile_append_of_pos h

theorem skipSpace_cons {c : Char} (h : isSpace c = false) (rest : List Char) :
    skipSpace (c :: rest) = c :: rest :=
  List.dropWhile_cons_of_neg (by simp [h])

/-- A value may end in front of these characters: none of them goes on with a number. -/
def AtEnd : List Char → Prop
  | [] => True
  | c :: _ => isSpace c = true ∨ c = ',' ∨ c = ']' ∨ c = '\x7d'

theorem AtEnd.stops {c : Char} {rest : List Char} (h : AtEnd (c :: rest)) :
    c.isDigit = false ∧ c ≠ '.' ∧ c ≠ 'e' ∧ c ≠ 'E' := by
  have hc : c = ' ' ∨ c = '\n' ∨ c = '\t' ∨ c = '\r' ∨ c = ',' ∨ c = ']' ∨ c = '\x7d' := by
    simpa [AtEnd, isSpace, or_assoc] using h
  rcases hc with rfl | rfl | rfl | rfl | rfl | rfl | rfl <;> decide

/-! ## Strings -/

theorem scanHex_control {n : Nat} (h : n < 32) (rest : List Char) :
    scanHex ('0' :: '0' :: Text.hexDigit (n / 16) :: Text.hexDigit (n % 16) :: rest) =
      .ok (n, rest) := by
  have hall : ∀ n < 32,
      fourHex? '0' '0' (Text.hexDigit (n / 16)) (Text.hexDigit (n % 16)) = some n := by decide
  simp only [scanHex, hall n h]

/-- A control character is read back from its escape. -/
theorem scanUnicode_control {c : Char} (h : c.toNat < 32) (rest : List Char) :
    scanUnicode ('0' :: '0' :: Text.hexDigit (c.toNat / 16) :: Text.hexDigit (c.toNat % 16) ::
      rest) = .ok (c, rest) := by
  unfold scanUnicode
  rw [scanHex_control h]
  have hlow : ¬ (0xDC00 ≤ c.toNat ∧ c.toNat ≤ 0xDFFF) := by omega
  have hplain : c.toNat < 0xD800 ∨ 0xDBFF < c.toNat := by omega
  simp [bind, Except.bind, hlow, hplain]

/-- One character is read back from its form between quotes, in one step. -/
theorem scanStringFrom_quoteChar (c tick : Char) (clock acc rest : List Char) :
    scanStringFrom (tick :: clock) acc (Text.quoteChar c ++ rest) =
      scanStringFrom clock (c :: acc) rest := by
  unfold Text.quoteChar
  -- the five short escapes of characters that have a name
  iterate 5
    split
    · subst_vars
      rfl
  split
  · rename_i hc
    obtain rfl : c = Char.ofNat 8 := by rw [← hc, Char.ofNat_toNat]
    rfl
  split
  · rename_i hc
    obtain rfl : c = Char.ofNat 12 := by rw [← hc, Char.ofNat_toNat]
    rfl
  split
  · rename_i hc
    simp only [List.cons_append, List.nil_append, scanStringFrom, scanUnicode_control hc]
    rfl
  · rename_i hc
    rw [List.singleton_append, scanStringFrom.eq_def]
    simp [hc]

theorem scanStringFrom_quoteChars {cs clock : List Char} (h : cs.length < clock.length)
    (acc rest : List Char) :
    scanStringFrom clock acc (Text.quoteChars cs ++ '"' :: rest) =
      .ok (String.ofList (acc.reverse ++ cs), rest) := by
  induction cs generalizing clock acc with
  | nil =>
    cases clock with
    | nil => simp at h
    | cons tick clock => simp [Text.quoteChars, scanStringFrom]
  | cons c cs ih =>
    cases clock with
    | nil => simp at h
    | cons tick clock =>
      have hclock : cs.length < clock.length := by simpa using h
      rw [Text.quoteChars, List.append_assoc, scanStringFrom_quoteChar, ih hclock]
      simp

theorem length_le_quoteChars (cs : List Char) : cs.length ≤ (Text.quoteChars cs).length := by
  induction cs with
  | nil => simp
  | cons c cs ih =>
    have hc : 1 ≤ (Text.quoteChar c).length := by
      unfold Text.quoteChar
      repeat' split
      all_goals simp
    simp only [Text.quoteChars, List.length_append, List.length_cons]
    omega

/-- A string is read back from behind its opening quote. -/
theorem scanString_quoteChars (s : String) (rest : List Char) :
    scanString (Text.quoteChars s.toList ++ '"' :: rest) = .ok (s, rest) := by
  have hclock : s.toList.length <
      ('"' :: (Text.quoteChars s.toList ++ '"' :: rest)).length := by
    have := length_le_quoteChars s.toList
    simp only [List.length_cons, List.length_append]
    omega
  rw [scanString, scanStringFrom_quoteChars hclock]
  simp

/-! ## Integers -/

/-- No digit is dropped of a number that fits 64 bits. -/
theorem appendDigits_eq {digits : List Char} {m : Nat}
    (h : Nat.ofDigitChars 10 digits m < UInt64.size) :
    appendDigits m digits = (Nat.ofDigitChars 10 digits m, 0) := by
  induction digits generalizing m with
  | nil => rfl
  | cons c rest ih =>
    have hnext : m * 10 + digitValue c = 10 * m + (c.toNat - '0'.toNat) := by
      simp only [digitValue]
      rw [Nat.mul_comm]
      rfl
    rw [Nat.ofDigitChars_cons] at h ⊢
    have hstep : m * 10 + digitValue c < UInt64.size := by
      rw [hnext]
      exact Nat.lt_of_le_of_lt (Text.le_ofDigitChars rest _) h
    simp only [appendDigits, if_pos hstep]
    rw [hnext, ih h]

theorem scanAfterWhole_of_atEnd {rest : List Char} (h : AtEnd rest) (negative : Bool) (n : Nat) :
    scanAfterWhole negative n 0 rest = .ok (integerNumber negative n, rest) := by
  unfold scanAfterWhole
  split
  · exact absurd rfl h.stops.2.1
  · exact absurd rfl h.stops.2.2.1
  · exact absurd rfl h.stops.2.2.2
  · rfl

/-- The digits of a number that fits 64 bits are read back. -/
theorem scanNumber_digits {n : Nat} (hn : n < UInt64.size) (negative : Bool) {rest : List Char}
    (h : AtEnd rest) :
    scanNumber negative (Nat.toDigits 10 n ++ rest) = .ok (integerNumber negative n, rest) := by
  have hall : ∀ d ∈ Nat.toDigits 10 n, d.isDigit = true := fun d hd => Text.isDigit_of_mem_digits hd
  have hvalue : appendDigits 0 (Nat.toDigits 10 n) = (n, 0) := by
    have hread : Nat.ofDigitChars 10 (Nat.toDigits 10 n) 0 = n := by simp
    have happend : appendDigits 0 (Nat.toDigits 10 n) =
        (Nat.ofDigitChars 10 (Nat.toDigits 10 n) 0, 0) := appendDigits_eq (by rwa [hread])
    rwa [hread] at happend
  have hstop : ∀ c ∈ rest.head?, c.isDigit = false := by
    cases rest with
    | nil => simp
    | cons c rest => simpa using h.stops.1
  have htake := Text.takeWhile_digits hall hstop
  have hdrop := Text.dropWhile_digits hall hstop
  obtain ⟨c, ds, hds, hdigit, hzero⟩ := Text.digits_eq_cons n
  by_cases hc : c = '0'
  · obtain ⟨rfl, rfl⟩ := hzero hc
    rw [hds, hc]
    have hafter := scanAfterWhole_of_atEnd h negative 0
    cases rest with
    | nil => exact hafter
    | cons d rest => simpa [scanNumber, h.stops.1] using hafter
  · rw [hds, List.cons_append] at htake hdrop ⊢
    rw [hds] at hvalue
    simp only [scanNumber, hc, hdigit, if_true, if_false, htake, hdrop, hvalue]
    exact scanAfterWhole_of_atEnd h negative n

end JsonExplorer.Json
