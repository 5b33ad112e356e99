import JsonExplorer.Proofs.Text.Words
import Mathlib.Data.List.TakeWhile

/-!
Lower case of a part of a text. What stands around a part matters for its capital sigmas only
(`lowerFrom_append`), and not for those that are settled within the part: a cased letter comes
behind, or something that is not looked through comes before, and behind too unless the sigma is no
final one anyway (`settledSigma`). A part whose sigmas are settled has one lower-case form wherever
it stands (`lowerWithin_eq`), and a part with an unsettled one has another form next to a cased
letter (`lowerWithin_ne`).
-/

namespace JsonExplorer.Text

variable {before after cs : List Char}

/-! ## Parts -/

/-- Whether a sigma between `before`, given backwards, and `after` is a final one. -/
def endsWord (before after : List Char) : Bool := meetsCased before && !meetsCased after

/-- The lower-case form of a character between `before`, given backwards, and `after`. -/
def lowerAt (before : List Char) (c : Char) (after : List Char) : List Char :=
  if c.toNat = 0x3A3 then [if endsWord before after then 'ς' else 'σ'] else lowerChar c

def lowerWithin (before : List Char) : List Char → List Char → List Char
  | [], _ => []
  | c :: rest, after => lowerAt before c (rest ++ after) ++ lowerWithin (c :: before) rest after

theorem lowerFrom_append (before cs after : List Char) :
    lowerFrom before (cs ++ after) =
      lowerWithin before cs after ++ lowerFrom (cs.reverse ++ before) after := by
  induction cs generalizing before with
  | nil => rfl
  | cons c rest ih =>
    rw [List.cons_append, lowerFrom, ih, lowerWithin, List.append_assoc]
    simp [lowerAt, endsWord]

theorem lowerFrom_eq_lowerWithin (before cs : List Char) :
    lowerFrom before cs = lowerWithin before cs [] := by
  have h := lowerFrom_append before cs []
  rwa [List.append_nil, lowerFrom, List.append_nil] at h

theorem lowerChars_eq_lowerWithin (cs : List Char) : lowerChars cs = lowerWithin [] cs [] :=
  lowerFrom_eq_lowerWithin [] cs

theorem lowerWithin_append (before cs more after : List Char) :
    lowerWithin before (cs ++ more) after =
      lowerWithin before cs (more ++ after) ++ lowerWithin (cs.reverse ++ before) more after := by
  induction cs generalizing before with
  | nil => rfl
  | cons c rest ih => simp [lowerWithin, ih]

theorem lowerAt_sigma (before after : List Char) :
    lowerAt before 'Σ' after = [if endsWord before after then 'ς' else 'σ'] := rfl

/-- The surroundings do not change how long a lower-case form is. -/
theorem length_lowerWithin (before before' cs after after' : List Char) :
    (lowerWithin before cs after).length = (lowerWithin before' cs after').length := by
  induction cs generalizing before before' with
  | nil => rfl
  | cons c rest ih =>
    rw [lowerWithin, lowerWithin, List.length_append, List.length_append,
      ih (c :: before) (c :: before')]
    by_cases hc : c.toNat = 0x3A3 <;> simp [lowerAt, hc]

/-- Each sigma can be told from the lower-case form. -/
theorem endsWord_eq_of_lowerWithin_eq {before before' after after' first rest : List Char}
    (h : lowerWithin before (first ++ 'Σ' :: rest) after =
      lowerWithin before' (first ++ 'Σ' :: rest) after') :
    endsWord (first.reverse ++ before) (rest ++ after) =
      endsWord (first.reverse ++ before') (rest ++ after') := by
  rw [lowerWithin_append, lowerWithin_append, lowerWithin, lowerWithin, lowerAt_sigma,
    lowerAt_sigma] at h
  have hsigma := (List.append_inj h (length_lowerWithin _ _ _ _ _)).2
  have hhead := (List.cons.inj hsigma).1
  generalize endsWord (first.reverse ++ before) (rest ++ after) = here at hhead ⊢
  generalize endsWord (first.reverse ++ before') (rest ++ after') = there at hhead ⊢
  revert hhead
  cases here <;> cases there <;> decide

/-- What is in lower case already, and not next to anything that matters, stays as it is. -/
theorem lowerWithin_eq_self (h : ∀ c ∈ cs, c.toNat ≠ 0x3A3 ∧ lowerChar c = [c])
    (before after : List Char) : lowerWithin before cs after = cs := by
  induction cs generalizing before with
  | nil => rfl
  | cons c rest ih =>
    obtain ⟨⟨hsigma, hlower⟩, hrest⟩ := List.forall_mem_cons.mp h
    rw [lowerWithin, lowerAt, if_neg hsigma, hlower, ih hrest]
    rfl

theorem lowerChars_append_of_lower (cs : List Char)
    (h : ∀ c ∈ after, c.toNat ≠ 0x3A3 ∧ lowerChar c = [c]) :
    lowerChars (cs ++ after) = lowerWithin [] cs after ++ after := by
  rw [lowerChars, lowerFrom_append, lowerFrom_eq_lowerWithin _ after, lowerWithin_eq_self h]

theorem lowerChars_lower_append (h : ∀ c ∈ before, c.toNat ≠ 0x3A3 ∧ lowerChar c = [c])
    (cs : List Char) :
    lowerChars (before ++ cs) = before ++ lowerWithin before.reverse cs [] := by
  rw [lowerChars, lowerFrom_append, lowerWithin_eq_self h, List.append_nil,
    lowerFrom_eq_lowerWithin]

/-! ## Settled sigmas -/

theorem meetsCased_append (cs more : List Char) :
    meetsCased (cs ++ more) =
      if cs.all isCaseIgnorable then meetsCased more else meetsCased cs := by
  induction cs with
  | nil => rfl
  | cons c rest ih =>
    by_cases hc : isCaseIgnorable c = true
    · simpa [meetsCased, hc] using ih
    · simp [meetsCased, hc]

theorem not_all_of_meetsCased (h : meetsCased cs = true) : cs.all isCaseIgnorable = false := by
  rw [← Bool.not_eq_true]
  intro hall
  have hnil : cs.dropWhile isCaseIgnorable = [] :=
    List.dropWhile_eq_nil_iff.mpr (List.all_eq_true.mp hall)
  simp [meetsCased, hnil] at h

/-- Whether it makes no difference for a sigma what stands before `before`, given backwards, and
behind `after`. -/
def settledSigma (before after : List Char) : Bool :=
  meetsCased after ||
    (!before.all isCaseIgnorable && (!meetsCased before || !after.all isCaseIgnorable))

theorem endsWord_append (h : settledSigma before after = true) (outer more : List Char) :
    endsWord (before ++ outer) (after ++ more) = endsWord before after := by
  simp only [endsWord, meetsCased_append]
  by_cases hafter : meetsCased after = true
  · simp [hafter, not_all_of_meetsCased hafter]
  · by_cases hbefore : meetsCased before = true
    · simp_all [settledSigma]
    · simp_all [settledSigma]

/-- Whether all sigmas of `cs` are settled; `before`, given backwards, belongs to it. -/
def sigmasSettled (before : List Char) : List Char → Bool
  | [] => true
  | c :: rest =>
    (c.toNat != 0x3A3 || settledSigma before rest) && sigmasSettled (c :: before) rest

theorem sigmasSettled_cons {c : Char} {rest : List Char} :
    sigmasSettled before (c :: rest) = true ↔
      (c.toNat = 0x3A3 → settledSigma before rest = true) ∧
        sigmasSettled (c :: before) rest = true := by
  simp [sigmasSettled, imp_iff_not_or]

/-- **One lower-case form.** A part whose sigmas are settled has it everywhere. -/
theorem lowerWithin_eq (h : sigmasSettled before cs = true) (outer after : List Char) :
    lowerWithin (before ++ outer) cs after = lowerFrom before cs := by
  induction cs generalizing before with
  | nil => rfl
  | cons c rest ih =>
    obtain ⟨hc, hrest⟩ := sigmasSettled_cons.mp h
    rw [lowerFrom_eq_lowerWithin, lowerWithin, lowerWithin, ← List.cons_append, ih hrest,
      lowerFrom_eq_lowerWithin]
    congr 1
    unfold lowerAt
    split
    · rename_i hsigma
      rw [endsWord_append (hc hsigma), List.append_nil]
    · rfl

/-- Otherwise one of its sigmas is unsettled. -/
theorem exists_unsettled (h : sigmasSettled before cs = false) :
    ∃ first rest, cs = first ++ 'Σ' :: rest ∧
      settledSigma (first.reverse ++ before) rest = false := by
  induction cs generalizing before with
  | nil => simp [sigmasSettled] at h
  | cons c rest ih =>
    by_cases hrest : sigmasSettled (c :: before) rest = true
    · simp only [sigmasSettled, hrest, Bool.and_true, Bool.or_eq_false_iff,
        bne_eq_false_iff_eq] at h
      obtain rfl : c = 'Σ' := by rw [← Char.ofNat_toNat c, h.1]
      exact ⟨[], rest, rfl, h.2⟩
    · obtain ⟨first, more, rfl, hmore⟩ := ih (by simpa using hrest)
      exact ⟨c :: first, more, rfl, by simpa using hmore⟩

/-- Its lower-case form has a small sigma in it then. -/
theorem sigma_mem_lowerChars (h : sigmasSettled [] cs = false) :
    'ς' ∈ lowerChars cs ∨ 'σ' ∈ lowerChars cs := by
  obtain ⟨first, rest, rfl, -⟩ := exists_unsettled h
  rw [lowerChars_eq_lowerWithin, lowerWithin_append, lowerWithin, lowerAt_sigma]
  split <;> simp

/-- **Another form.** Next to a cased letter, before it or behind it, a part with an unsettled sigma
is lower-cased in another way than on its own. -/
theorem lowerWithin_ne (h : sigmasSettled [] cs = false) :
    (∀ after, meetsCased after = true → lowerWithin [] cs after ≠ lowerChars cs) ∨
      ∀ before, meetsCased before = true → lowerWithin before cs [] ≠ lowerChars cs := by
  obtain ⟨first, rest, rfl, hsigma⟩ := exists_unsettled h
  rw [List.append_nil] at hsigma
  simp only [settledSigma, Bool.or_eq_false_iff, Bool.and_eq_false_iff,
    Bool.not_eq_false'] at hsigma
  rw [lowerChars_eq_lowerWithin]
  obtain ⟨hrest, hbefore | ⟨hbefore, hbehind⟩⟩ := hsigma
  · -- nothing comes before it, so that on its own it is no final one
    refine Or.inr fun before hcased he => ?_
    have := endsWord_eq_of_lowerWithin_eq he
    have hnone : meetsCased first.reverse = false := Bool.eq_false_iff.mpr fun hm => by
      simp [not_all_of_meetsCased hm] at hbefore
    simp [endsWord, meetsCased_append, hbefore, hcased, hrest, hnone] at this
  · -- only what is looked through comes behind it, so that on its own it is a final one
    refine Or.inl fun after hcased he => ?_
    have := endsWord_eq_of_lowerWithin_eq he
    simp [endsWord, meetsCased_append, hbefore, hbehind, hcased, hrest] at this

/-! ## Words -/

theorem lowerAt_of_not_isAlphanumeric {c : Char} (hc : isAlphanumeric c = false)
    (before after : List Char) : lowerAt before c after = [c] := by
  have hsigma : isAlphanumeric 'Σ' = true := by decide +kernel
  have hcode : c.toNat ≠ 0x3A3 := fun he => by
    obtain rfl : c = 'Σ' := by rw [← Char.ofNat_toNat c, he]
    simp [hsigma] at hc
  rw [lowerAt, if_neg hcode, lowerChar_of_not_isAlphanumeric hc]

/-- The lower-case form of a character belongs to a word if the character does, the dotted capital I
excepted. -/
theorem all_lowerAt (before : List Char) (c : Char) (after : List Char) :
    (lowerAt before c after).all isAlphanumeric = true ↔ isAlphanumeric c = true ∧ c ≠ 'İ' := by
  constructor
  · intro h
    refine ⟨Classical.byContradiction fun hc => hc ?_, fun he => ?_⟩
    · rw [lowerAt_of_not_isAlphanumeric (Bool.not_eq_true _ ▸ hc)] at h
      simpa using h
    · have hmark : (lowerChar 'İ').all isAlphanumeric = false := by decide +kernel
      subst he
      rw [lowerAt, if_neg (by decide), hmark] at h
      cases h
  · rintro ⟨hc, hdot⟩
    rw [lowerAt]
    split
    · have hforms : isAlphanumeric 'ς' = true ∧ isAlphanumeric 'σ' = true := by decide +kernel
      split <;> simp [hforms]
    · exact List.all_eq_true.mpr fun d hd => isAlphanumeric_of_mem_lowerChar hc hdot hd

/-- So a lower-case form is one word if the part is, without that letter. -/
theorem all_lowerWithin (before cs after : List Char) :
    (lowerWithin before cs after).all isAlphanumeric = true ↔
      cs.all isAlphanumeric = true ∧ 'İ' ∉ cs := by
  induction cs generalizing before with
  | nil => simp [lowerWithin]
  | cons c rest ih =>
    rw [lowerWithin, List.all_append, Bool.and_eq_true, all_lowerAt, ih, List.all_cons,
      Bool.and_eq_true, List.mem_cons, not_or]
    constructor
    · rintro ⟨⟨hc, hdot⟩, hrest, hdots⟩
      exact ⟨⟨hc, hrest⟩, Ne.symm hdot, hdots⟩
    · rintro ⟨⟨hc, hrest⟩, hdot, hdots⟩
      exact ⟨⟨hc, Ne.symm hdot⟩, hrest, hdots⟩

theorem all_lowerChars (cs : List Char) : (lowerChars cs).all isAlphanumeric = true ↔
    cs.all isAlphanumeric = true ∧ 'İ' ∉ cs := by
  rw [lowerChars_eq_lowerWithin, all_lowerWithin]

/-- No word begins where a lower-case form begins if none begins where the part begins. -/
theorem head?_lowerWithin (h : ∀ c ∈ cs.head?, isAlphanumeric c = false)
    (before after : List Char) :
    ∀ d ∈ (lowerWithin before cs after).head?, isAlphanumeric d = false := by
  cases cs with
  | nil => exact h
  | cons c rest =>
    have hc : isAlphanumeric c = false := h c rfl
    rw [lowerWithin, lowerAt_of_not_isAlphanumeric hc]
    exact h

theorem getLast?_lowerWithin (h : ∀ c ∈ cs.getLast?, isAlphanumeric c = false)
    (before after : List Char) :
    ∀ d ∈ (lowerWithin before cs after).getLast?, isAlphanumeric d = false := by
  rcases List.eq_nil_or_concat cs with rfl | ⟨front, c, rfl⟩
  · exact h
  · rw [List.concat_eq_append] at h ⊢
    rw [List.getLast?_concat] at h
    rw [lowerWithin_append, lowerWithin, lowerAt_of_not_isAlphanumeric (h c rfl)]
    simpa [lowerWithin] using h

end JsonExplorer.Text
