import JsonExplorer.Path

/-!
Steps and their text. A key is read back whole exactly if it is clean (`cleanKey_iff`), and behind
it the reader stops where the next step begins (`splitKey_eq_iff`). What is read off a text is given
by a grammar (`Reads`): the reader accepts what is in it and nothing else (`steps?_eq_some_iff`). So
clean steps are read back from their path (`steps?_ofSteps`), as far as their indices fit 64 bits,
one more step at the end of a path is read as one more step (`steps?_child`), and no two lists of
clean steps have the same path, however large the indices are (`ofSteps_injective`).
-/

namespace JsonExplorer

/-- A step whose text cannot be mistaken for more than one step. -/
def Step.Clean : Step → Prop
  | .key k => Path.CleanKey k
  | .index _ => True

namespace Path

/-! ## Keys -/

theorem opensIndex_iff {cs : List Char} : opensIndex cs = true ↔
    ∃ digits after, cs = digits ++ ']' :: after ∧ digits ≠ [] ∧ ∀ d ∈ digits, d.isDigit = true := by
  constructor
  · intro h
    simp only [opensIndex, Bool.and_eq_true, decide_eq_true_eq, beq_iff_eq] at h
    obtain ⟨after, hafter⟩ := List.head?_eq_some_iff.mp h.2
    refine ⟨cs.takeWhile Char.isDigit, after, ?_, h.1, List.all_eq_true.mp List.all_takeWhile⟩
    rw [← hafter, List.takeWhile_append_dropWhile]
  · rintro ⟨digits, after, rfl, hne, hd⟩
    simp [opensIndex, List.takeWhile_append_of_pos hd, List.dropWhile_append_of_pos hd, hne]

/-- Nothing is split off from `cs`: it is empty or a step begins there. -/
def AtStep (cs : List Char) : Prop := splitKey cs = ([], cs)

theorem splitKey_cons (c : Char) (rest : List Char) : splitKey (c :: rest) =
    if c = '.' ∨ (c = '[' ∧ opensIndex rest) then ([], c :: rest)
    else (c :: (splitKey rest).1, (splitKey rest).2) := rfl

theorem atStep_cons {c : Char} {rest : List Char} :
    AtStep (c :: rest) ↔ c = '.' ∨ (c = '[' ∧ opensIndex rest = true) := by
  unfold AtStep
  rw [splitKey_cons]
  split <;> simp_all

theorem splitKey_cons_eq_iff {c : Char} {key rest after : List Char} :
    splitKey (c :: rest) = (c :: key, after) ↔
      ¬ AtStep (c :: rest) ∧ splitKey rest = (key, after) := by
  rw [atStep_cons, splitKey_cons]
  split <;> simp_all [Prod.ext_iff]

theorem splitKey_eq_self_iff {cs : List Char} : splitKey cs = (cs, []) ↔
    '.' ∉ cs ∧ ∀ before after, cs = before ++ '[' :: after → opensIndex after = false := by
  induction cs with
  | nil => simp [splitKey]
  | cons c rest ih =>
    rw [splitKey_cons_eq_iff, atStep_cons, ih]
    constructor
    · rintro ⟨hc, hdot, hopen⟩
      obtain ⟨hcdot, hcopen⟩ := not_or.mp hc
      refine ⟨by simp [hdot, Ne.symm hcdot], fun before after he => ?_⟩
      cases before with
      | nil =>
        obtain ⟨rfl, rfl⟩ := List.cons.inj he
        simpa using hcopen
      | cons b before => exact hopen before after (List.cons.inj he).2
    · rintro ⟨hdot, hopen⟩
      refine ⟨?_, fun hm => hdot (List.mem_cons_of_mem _ hm), fun before after he =>
        hopen (c :: before) after (by rw [he]; rfl)⟩
      rintro (rfl | ⟨rfl, h⟩)
      · exact hdot List.mem_cons_self
      · simp [hopen [] rest rfl] at h

/-- A key is clean exactly if nothing is cut off from it. -/
theorem cleanKey_iff {key : String} : CleanKey key ↔ splitKey key.toList = (key.toList, []) := by
  rw [splitKey_eq_self_iff]
  refine and_congr_right fun _ => ⟨fun h before after he => ?_, fun h before digits after he => ?_⟩
  · cases hopen : opensIndex after with
    | false => rfl
    | true =>
      obtain ⟨digits, after, rfl, hne, hd⟩ := opensIndex_iff.mp hopen
      rcases h before digits after he with hnil | ⟨d, hmem, hdigit⟩
      · exact absurd hnil hne
      · simp [hd d hmem] at hdigit
  · by_cases hd : ∀ d ∈ digits, d.isDigit = true
    · refine Or.inl (Classical.byContradiction fun hne => ?_)
      have hopen := opensIndex_iff.mpr ⟨digits, after, rfl, hne, hd⟩
      simp [h before _ he] at hopen
    · exact Or.inr (by simpa using hd)

instance (key : String) : Decidable (CleanKey key) := decidable_of_iff _ cleanKey_iff.symm

instance : (s : Step) → Decidable s.Clean
  | .key k => inferInstanceAs (Decidable (CleanKey k))
  | .index _ => isTrue trivial

/-- A step behind some text does not complete a bracketed number in it. -/
theorem opensIndex_append {cs rest : List Char} (hrest : AtStep rest)
    (h : opensIndex (cs ++ rest) = true) : opensIndex cs = true := by
  obtain ⟨digits, after, he, hne, hd⟩ := opensIndex_iff.mp h
  -- the bracket that closes the number cannot stand in `rest`, which begins with a step
  rcases List.append_eq_append_iff.mp he with ⟨more, rfl, hmore⟩ | ⟨more, rfl, hmore⟩
  · cases more with
    | nil => simp [hmore, atStep_cons] at hrest
    | cons d more =>
      have hdigit := hd d (by simp)
      rw [hmore, List.cons_append, atStep_cons] at hrest
      rcases hrest with rfl | ⟨rfl, _⟩ <;> simp at hdigit
  · cases more with
    | nil =>
      obtain rfl : ']' :: after = rest := hmore
      simp [atStep_cons] at hrest
    | cons d more =>
      obtain rfl : ']' = d := (List.cons.inj hmore).1
      exact opensIndex_iff.mpr ⟨digits, more, rfl, hne, hd⟩

/-- Behind a clean key the reader stops at the next step. -/
theorem splitKey_append {key rest : List Char} (hkey : splitKey key = (key, []))
    (hrest : AtStep rest) : splitKey (key ++ rest) = (key, rest) := by
  induction key with
  | nil => exact hrest
  | cons c key ih =>
    obtain ⟨hc, hkey⟩ := splitKey_cons_eq_iff.mp hkey
    refine splitKey_cons_eq_iff.mpr ⟨fun hat => hc ?_, ih hkey⟩
    exact atStep_cons.mpr ((atStep_cons.mp hat).imp_right fun ⟨hb, ho⟩ =>
      ⟨hb, opensIndex_append hrest ho⟩)

theorem opensIndex_append_of_opensIndex {cs : List Char} (h : opensIndex cs = true)
    (rest : List Char) : opensIndex (cs ++ rest) = true := by
  obtain ⟨digits, after, rfl, hne, hd⟩ := opensIndex_iff.mp h
  exact opensIndex_iff.mpr ⟨digits, after ++ rest, by simp, hne, hd⟩

theorem AtStep.append {cs rest : List Char} (hcs : AtStep cs) (hrest : AtStep rest) :
    AtStep (cs ++ rest) := by
  cases cs with
  | nil => exact hrest
  | cons c cs =>
    refine atStep_cons.mpr ((atStep_cons.mp hcs).imp_right fun ⟨hc, hopen⟩ => ⟨hc, ?_⟩)
    exact opensIndex_append_of_opensIndex hopen rest

/-- What is split off is a clean key, and a step begins behind it. -/
theorem splitKey_eq_iff {cs key after : List Char} : splitKey cs = (key, after) ↔
    cs = key ++ after ∧ splitKey key = (key, []) ∧ AtStep after := by
  constructor
  · intro h
    induction cs generalizing key with
    | nil =>
      obtain ⟨rfl, rfl⟩ := Prod.mk.inj h
      exact ⟨rfl, rfl, rfl⟩
    | cons c rest ih =>
      by_cases hat : AtStep (c :: rest)
      · obtain ⟨rfl, rfl⟩ := Prod.mk.inj (hat.symm.trans h)
        exact ⟨rfl, rfl, hat⟩
      · have hsplit : splitKey (c :: rest) = (c :: (splitKey rest).1, (splitKey rest).2) :=
          splitKey_cons_eq_iff.mpr ⟨hat, rfl⟩
        obtain ⟨rfl, rfl⟩ := Prod.mk.inj (hsplit.symm.trans h)
        obtain ⟨hrest, hkey, hafter⟩ := ih rfl
        refine ⟨congrArg (List.cons c) hrest, splitKey_cons_eq_iff.mpr ⟨fun hin => hat ?_, hkey⟩,
          hafter⟩
        -- a number that is opened in the key is opened in the whole text
        refine atStep_cons.mpr ((atStep_cons.mp hin).imp_right fun ⟨hc, hopen⟩ => ⟨hc, ?_⟩)
        rw [hrest]
        exact opensIndex_append_of_opensIndex hopen _
  · rintro ⟨rfl, hkey, hafter⟩
    exact splitKey_append hkey hafter

/-! ## Indices -/

theorem takeWhile_digits (i : Nat) (rest : List Char) :
    (Nat.toDigits 10 i ++ ']' :: rest).takeWhile Char.isDigit = Nat.toDigits 10 i :=
  Text.takeWhile_digits (fun d hd => Text.isDigit_of_mem_digits hd) (by simp)

/-- An index is some digits, behind a plus sign or without one, for a number that fits 64 bits. -/
theorem index?_eq_some_iff {text : List Char} {i : Nat} : index? text = some i ↔
    i < UInt64.size ∧ ∃ digits, (text = digits ∨ text = '+' :: digits) ∧ digits ≠ [] ∧
      (∀ d ∈ digits, d.isDigit = true) ∧ Nat.ofDigitChars 10 digits 0 = i := by
  have hread : index? text = some i ↔ Text.whole text = .ok i := by
    rw [index?]
    cases Text.whole text <;> simp [Except.toOption]
  rw [hread, Text.whole_eq_ok_iff]
  constructor
  · rintro ⟨digits, htext, hne, h⟩
    obtain ⟨hd, hvalue, hfits⟩ := (Text.wholeFrom_eq_ok_iff (by decide)).mp h
    exact ⟨hfits, digits, htext, hne, hd, hvalue⟩
  · rintro ⟨hfits, digits, htext, hne, hd, hvalue⟩
    exact ⟨digits, htext, hne, (Text.wholeFrom_eq_ok_iff (by decide)).mpr ⟨hd, hvalue, hfits⟩⟩

theorem index?_digits {i : Nat} (hi : i < UInt64.size) : index? (Nat.toDigits 10 i) = some i :=
  index?_eq_some_iff.mpr ⟨hi, _, Or.inl rfl, Nat.toDigits_ne_nil,
    fun _ hd => Text.isDigit_of_mem_digits hd, Nat.ofDigitChars_ten_toDigits⟩

theorem bracket_notMem_of_index? {text : List Char} {i : Nat} (h : index? text = some i) {c : Char}
    (hc : c = '[' ∨ c = ']') : c ∉ text := by
  obtain ⟨-, digits, htext, -, hd, -⟩ := index?_eq_some_iff.mp h
  have hdigits : c ∉ digits := fun hm => by
    have hdigit := hd c hm
    rcases hc with rfl | rfl <;> simp at hdigit
  rcases htext with rfl | rfl
  · exact hdigits
  · rcases hc with rfl | rfl <;> simpa using hdigits

/-! ## The grammar of paths -/

/-- Which characters are read as which steps. A key is clean and a step begins behind it; an index
stands in brackets. -/
inductive Reads : List Char → List Step → Prop
  | nil : Reads [] []
  | key {k : String} {rest : List Char} {steps : List Step} : CleanKey k → AtStep rest →
      Reads rest steps → Reads ('.' :: (k.toList ++ rest)) (.key k :: steps)
  | index {text : List Char} {i : Nat} {rest : List Char} {steps : List Step} :
      index? text = some i → Reads rest steps →
      Reads ('[' :: (text ++ ']' :: rest)) (.index i :: steps)

theorem stepsFrom_dot (fuel : Nat) (rest : List Char) : stepsFrom (fuel + 1) ('.' :: rest) =
    (stepsFrom fuel (splitKey rest).2).map (.key (String.ofList (splitKey rest).1) :: ·) := by
  cases h : stepsFrom fuel (splitKey rest).2 <;> simp [stepsFrom, h]

/-- An index ends at the bracket that closes it. -/
theorem stepsFrom_bracket (fuel : Nat) {text : List Char} (h : ']' ∉ text) (rest : List Char) :
    stepsFrom (fuel + 1) ('[' :: (text ++ ']' :: rest)) =
      (index? text).bind fun i => (stepsFrom fuel rest).map (.index i :: ·) := by
  have hne : ∀ c ∈ text, (!decide (c = ']')) = true := fun c hc => by
    simpa using ne_of_mem_of_not_mem hc h
  have htake : (text ++ ']' :: rest).takeWhile (· ≠ ']') = text := by
    simp [List.takeWhile_append_of_pos hne]
  have hdrop : (text ++ ']' :: rest).dropWhile (· ≠ ']') = ']' :: rest := by
    simp [List.dropWhile_append_of_pos hne]
  simp only [stepsFrom, htake, hdrop, bind_pure_comp]
  simp

theorem reads_of_stepsFrom {fuel : Nat} {cs : List Char} (hfuel : cs.length ≤ fuel)
    {steps : List Step} (h : stepsFrom fuel cs = some steps) : Reads cs steps := by
  induction fuel generalizing cs steps with
  | zero =>
    obtain rfl : cs = [] := List.length_eq_zero_iff.mp (by omega)
    cases h
    exact .nil
  | succ fuel ih =>
    cases cs with
    | nil =>
      cases h
      exact .nil
    | cons c rest =>
      rw [List.length_cons] at hfuel
      by_cases hindex : c = '[' ∧ ']' ∈ rest
      · obtain ⟨rfl, hclose⟩ := hindex
        obtain ⟨text, more, rfl, htext⟩ := List.eq_append_cons_of_mem hclose
        rw [stepsFrom_bracket fuel htext] at h
        obtain ⟨i, hi, h⟩ := Option.bind_eq_some_iff.mp h
        obtain ⟨steps, hsteps, rfl⟩ := Option.map_eq_some_iff.mp h
        have hlen : more.length ≤ fuel := by
          simp only [List.length_cons, List.length_append] at hfuel
          omega
        exact .index hi (ih hlen hsteps)
      · by_cases hkey : c = '.'
        · subst hkey
          rw [stepsFrom_dot] at h
          obtain ⟨steps, hsteps, rfl⟩ := Option.map_eq_some_iff.mp h
          obtain ⟨hrest, hwhole, hafter⟩ := splitKey_eq_iff.mp (Prod.eta (splitKey rest)).symm
          have hlen : (splitKey rest).2.length ≤ fuel := by
            have := congrArg List.length hrest
            simp only [List.length_append] at this
            omega
          have hclean : CleanKey (String.ofList (splitKey rest).1) :=
            cleanKey_iff.mpr (by simpa using hwhole)
          have hreads := Reads.key hclean hafter (ih hlen hsteps)
          rwa [String.toList_ofList, ← hrest] at hreads
        · have hnone : stepsFrom (fuel + 1) (c :: rest) = none := by
            by_cases hc : c = '[' <;> simp_all [stepsFrom]
          rw [hnone] at h
          cases h

namespace Reads

variable {cs : List Char} {steps : List Step}

theorem stepsFrom_eq (h : Reads cs steps) {fuel : Nat} (hfuel : cs.length ≤ fuel) :
    stepsFrom fuel cs = some steps := by
  induction h generalizing fuel with
  | nil => cases fuel <;> rfl
  | @key k rest steps hk hrest _ ih =>
    cases fuel with
    | zero => simp at hfuel
    | succ fuel =>
      have hlen : rest.length ≤ fuel := by
        simp only [List.length_cons, List.length_append] at hfuel
        omega
      rw [stepsFrom_dot, splitKey_append (cleanKey_iff.mp hk) hrest, ih hlen]
      simp
  | @index text i rest steps hi _ ih =>
    cases fuel with
    | zero => simp at hfuel
    | succ fuel =>
      have hlen : rest.length ≤ fuel := by
        simp only [List.length_cons, List.length_append] at hfuel
        omega
      rw [stepsFrom_bracket fuel (bracket_notMem_of_index? hi (Or.inr rfl)), hi, ih hlen]
      rfl

/-- Whatever is read has clean keys. -/
theorem clean (h : Reads cs steps) : ∀ s ∈ steps, s.Clean := by
  induction h with
  | nil => exact List.forall_mem_nil _
  | key hk _ _ ih => exact List.forall_mem_cons.mpr ⟨hk, ih⟩
  | index _ _ ih => exact List.forall_mem_cons.mpr ⟨trivial, ih⟩

/-- Whatever is read has indices that fit 64 bits. -/
theorem index_lt (h : Reads cs steps) : ∀ i, Step.index i ∈ steps → i < UInt64.size := by
  induction h with
  | nil => simp
  | key _ _ _ ih => exact fun i hi => ih i ((List.mem_cons.mp hi).resolve_left (by simp))
  | index hj _ ih =>
    intro i hi
    rcases List.mem_cons.mp hi with he | hi
    · obtain rfl := Step.index.inj he
      exact (index?_eq_some_iff.mp hj).1
    · exact ih i hi

/-- Steps may be read one part after another, wherever the second part begins with a step. -/
theorem append (h : Reads cs steps) {rest : List Char} {more : List Step} (hrest : AtStep rest)
    (hmore : Reads rest more) : Reads (cs ++ rest) (steps ++ more) := by
  induction h with
  | nil => exact hmore
  | key hk hafter _ ih => simpa using Reads.key hk (hafter.append hrest) ih
  | index hi _ ih => simpa using Reads.index hi ih

end Reads

theorem dropRoot_eq_some_iff {cs rest : List Char} :
    dropRoot cs = some rest ↔ cs = root.toList ++ rest := by
  have hroot : root.toList = ['R', 'o', 'o', 't'] := by decide
  rw [hroot]
  constructor
  · intro h
    unfold dropRoot at h
    split at h
    · obtain rfl := Option.some.inj h
      rfl
    · cases h
  · rintro rfl
    rfl

/-- **The grammar of paths.** A path is accepted if what stands behind the root is read as some
steps. -/
theorem steps?_eq_some_iff {path : String} {steps : List Step} : steps? path = some steps ↔
    ∃ rest, path.toList = root.toList ++ rest ∧ Reads rest steps := by
  rw [steps?, Option.bind_eq_some_iff]
  refine exists_congr fun rest => ?_
  rw [dropRoot_eq_some_iff]
  exact and_congr_right fun _ =>
    ⟨reads_of_stepsFrom (Nat.le_refl _), fun h => h.stepsFrom_eq (Nat.le_refl _)⟩

/-! ## Paths -/

def stepChars : Step → List Char
  | .key k => '.' :: k.toList
  | .index i => '[' :: (Nat.toDigits 10 i ++ [']'])

/-- What follows the root's name in the path at the end of some steps. -/
def stepsChars (steps : List Step) : List Char := steps.flatMap stepChars

theorem stepsChars_key (k : String) (rest : List Step) :
    stepsChars (.key k :: rest) = '.' :: (k.toList ++ stepsChars rest) := rfl

theorem stepsChars_index (i : Nat) (rest : List Step) :
    stepsChars (.index i :: rest) = '[' :: (Nat.toDigits 10 i ++ ']' :: stepsChars rest) := by
  simp [stepsChars, stepChars, List.flatMap_cons]

theorem toList_child (parent : String) (s : Step) :
    (child parent s).toList = parent.toList ++ stepsChars [s] := by
  cases s with
  | key k => simp [stepsChars, stepChars, child, childKey]
  | index i => simp [stepsChars, stepChars, child, childIndex]

theorem toList_ofSteps (steps : List Step) :
    (ofSteps steps).toList = root.toList ++ stepsChars steps := by
  have hfrom : ∀ parent : String,
      (steps.foldl child parent).toList = parent.toList ++ stepsChars steps := by
    induction steps with
    | nil => simp [stepsChars]
    | cons s rest ih =>
      intro parent
      rw [List.foldl_cons, ih, toList_child, List.append_assoc]
      simp [stepsChars]
  exact hfrom root

theorem atStep_stepsChars (steps : List Step) : AtStep (stepsChars steps) := by
  cases steps with
  | nil => rfl
  | cons s rest =>
    cases s with
    | key k => exact atStep_cons.mpr (Or.inl rfl)
    | index i =>
      rw [stepsChars_index]
      refine atStep_cons.mpr (Or.inr ⟨rfl, opensIndex_iff.mpr ?_⟩)
      exact ⟨_, _, rfl, Nat.toDigits_ne_nil, fun d hd => Text.isDigit_of_mem_digits hd⟩

theorem splitKey_step {k : String} (hk : CleanKey k) (steps : List Step) :
    splitKey (k.toList ++ stepsChars steps) = (k.toList, stepsChars steps) :=
  splitKey_append (cleanKey_iff.mp hk) (atStep_stepsChars steps)

theorem reads_stepsChars {steps : List Step} (hclean : ∀ s ∈ steps, s.Clean)
    (hfits : ∀ i, Step.index i ∈ steps → i < UInt64.size) : Reads (stepsChars steps) steps := by
  induction steps with
  | nil => exact .nil
  | cons s rest ih =>
    obtain ⟨hs, hrest⟩ := List.forall_mem_cons.mp hclean
    have hmore : Reads (stepsChars rest) rest :=
      ih hrest fun i hi => hfits i (List.mem_cons_of_mem _ hi)
    cases s with
    | key k =>
      rw [stepsChars_key]
      exact .key hs (atStep_stepsChars rest) hmore
    | index i =>
      rw [stepsChars_index]
      exact .index (index?_digits (hfits i List.mem_cons_self)) hmore

/-- Clean steps are read back from their path, if the indices fit 64 bits. -/
theorem steps?_ofSteps {steps : List Step} (hclean : ∀ s ∈ steps, s.Clean)
    (hfits : ∀ i, Step.index i ∈ steps → i < UInt64.size) :
    steps? (ofSteps steps) = some steps :=
  steps?_eq_some_iff.mpr ⟨_, toList_ofSteps steps, reads_stepsChars hclean hfits⟩

/-- One more clean step at the end of any path that is accepted is read as one more step. -/
theorem steps?_child {path : String} {steps : List Step} (h : steps? path = some steps) {s : Step}
    (hclean : s.Clean) (hfits : ∀ i, s = .index i → i < UInt64.size) :
    steps? (child path s) = some (steps ++ [s]) := by
  obtain ⟨rest, hpath, hreads⟩ := steps?_eq_some_iff.mp h
  have hlast : Reads (stepsChars [s]) [s] :=
    reads_stepsChars (by simpa using hclean) fun i hi => hfits i (List.mem_singleton.mp hi).symm
  refine steps?_eq_some_iff.mpr ⟨rest ++ stepsChars [s], ?_,
    hreads.append (atStep_stepsChars [s]) hlast⟩
  rw [toList_child, hpath, List.append_assoc]

/-- The path of clean steps leads where the steps lead. -/
theorem resolve_ofSteps (document : Value) {steps : List Step} (hclean : ∀ s ∈ steps, s.Clean)
    (hfits : ∀ i, Step.index i ∈ steps → i < UInt64.size) :
    resolve document (ofSteps steps) = document.get? steps := by
  rw [resolve, steps?_ofSteps hclean hfits]
  rfl

theorem stepsChars_injective {steps steps' : List Step} (hclean : ∀ s ∈ steps, s.Clean)
    (hclean' : ∀ s ∈ steps', s.Clean) (he : stepsChars steps = stepsChars steps') :
    steps = steps' := by
  induction steps generalizing steps' with
  | nil =>
    cases steps' with
    | nil => rfl
    | cons s rest => cases s <;> simp [stepsChars, stepChars] at he
  | cons s rest ih =>
    obtain ⟨hs, hrest⟩ := List.forall_mem_cons.mp hclean
    cases steps' with
    | nil => cases s <;> simp [stepsChars, stepChars] at he
    | cons s' rest' =>
      obtain ⟨hs', hrest'⟩ := List.forall_mem_cons.mp hclean'
      cases s with
      | key k =>
        cases s' with
        | key k' =>
          simp only [stepsChars_key, List.cons.injEq, true_and] at he
          have hsplit := congrArg splitKey he
          rw [splitKey_step hs, splitKey_step hs', Prod.mk.injEq] at hsplit
          rw [String.toList_inj.mp hsplit.1, ih hrest hrest' hsplit.2]
        | index i => simp [stepsChars_key, stepsChars_index] at he
      | index i =>
        cases s' with
        | key k => simp [stepsChars_key, stepsChars_index] at he
        | index j =>
          simp only [stepsChars_index, List.cons.injEq, true_and] at he
          have hdigits := congrArg (List.takeWhile Char.isDigit) he
          rw [takeWhile_digits, takeWhile_digits] at hdigits
          obtain rfl := Text.digits_injective hdigits
          rw [ih hrest hrest' (List.cons.inj (List.append_cancel_left he)).2]

/-- No two lists of clean steps have the same path. -/
theorem ofSteps_injective {steps steps' : List Step} (hclean : ∀ s ∈ steps, s.Clean)
    (hclean' : ∀ s ∈ steps', s.Clean) (he : ofSteps steps = ofSteps steps') : steps = steps' := by
  have hchars := congrArg String.toList he
  rw [toList_ofSteps, toList_ofSteps] at hchars
  exact stepsChars_injective hclean hclean' (List.append_cancel_left hchars)

end Path

end JsonExplorer
