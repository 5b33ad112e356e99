import JsonExplorer.Proofs.Outline.Rows

/-!
Reading a path and writing it again. Steps are read back from their path exactly if their keys are
clean (`read_back_iff_clean`). The other way round, a path whose indices have no sign is written
back from its steps exactly if no index has needless zeros in front (`written_back_unless_padded`).
Then it is the path under which rows, matches and open containers know the node it is accepted for.
-/

namespace JsonExplorer.Path

/-! ## Steps read back -/

/-- **Steps are read back exactly if they are clean.** Where all indices fit 64 bits, the path of
some steps is read as these steps if and only if every key among them is clean, and whatever path is
read, its keys are clean. -/
theorem read_back_iff_clean :
    (∀ steps : List Step, (∀ i, Step.index i ∈ steps → i < UInt64.size) →
      (steps? (ofSteps steps) = some steps ↔ ∀ k, Step.key k ∈ steps → CleanKey k)) ∧
    ∀ (path : String) (steps : List Step), steps? path = some steps →
      ∀ k, Step.key k ∈ steps → CleanKey k := by
  have hread : ∀ (path : String) (steps : List Step), steps? path = some steps →
      ∀ k, Step.key k ∈ steps → CleanKey k := by
    intro path steps h k hk
    obtain ⟨rest, _, hreads⟩ := steps?_eq_some_iff.mp h
    exact hreads.clean (.key k) hk
  refine ⟨fun steps hfits => ⟨hread _ _, fun hkeys => ?_⟩, hread⟩
  refine steps?_ofSteps (fun s hs => ?_) hfits
  cases s with
  | key k => exact hkeys k hs
  | index i => trivial

/-- Keys that are empty, open a number, close one and look like a signed index, next to the largest
index; and a key that is no clean one. -/
theorem read_back_iff_clean_seams :
    let steps :=
      [.key "", .key "[1", .index 0, .key "]5]", .key "a[+1]", .index 18446744073709551615]
    (∀ i, Step.index i ∈ steps → i < UInt64.size) ∧ (∀ k, Step.key k ∈ steps → CleanKey k) ∧
      steps? "Root..[1[0].]5].a[+1][18446744073709551615]" = some steps ∧
      steps? (ofSteps [.key "a[1]"]) ≠ some [.key "a[1]"] := by
  intro steps
  have hfits : ∀ i, Step.index i ∈ steps → i < UInt64.size := by
    intro i hi
    simp only [steps, List.mem_cons, Step.index.injEq, reduceCtorEq, false_or, List.not_mem_nil,
      or_false] at hi
    rcases hi with rfl | rfl <;> decide
  have hclean : ∀ s ∈ steps, s.Clean := by decide +kernel
  have hkeys : ∀ k, Step.key k ∈ steps → CleanKey k := fun k hk => hclean (.key k) hk
  have hpath : ofSteps steps = "Root..[1[0].]5].a[+1][18446744073709551615]" := by decide +kernel
  obtain ⟨hread, _⟩ := read_back_iff_clean
  refine ⟨hfits, hkeys, ?_, ?_⟩
  · rw [← hpath]
    exact (hread steps hfits).mpr hkeys
  · rw [Ne, hread [.key "a[1]"] (by simp)]
    intro h
    exact absurd (h "a[1]" List.mem_cons_self) (by decide +kernel)

/-! ## Padded and signed indices -/

/-- Somewhere in the text there are digits with `before` in front of them and `after` behind. -/
def HasNumber (before after text : List Char) : Prop :=
  ∃ digits, digits ≠ [] ∧ (∀ d ∈ digits, d.isDigit = true) ∧ before ++ digits ++ after <:+: text

theorem HasNumber.of_infix {before after text whole : List Char} (h : HasNumber before after text)
    (hin : text <:+: whole) : HasNumber before after whole := by
  obtain ⟨digits, hne, hd, htext⟩ := h
  exact ⟨digits, hne, hd, htext.trans hin⟩

/-- A bracketed number in the path has a zero in front that is not needed. -/
def Padded (path : String) : Prop := HasNumber ['[', '0'] [']'] path.toList

/-- An index has a sign in front. It stands directly behind the root or behind a bracketed number:
behind a key, what begins with a sign belongs to the key. -/
def Signed (path : String) : Prop :=
  "Root[+".toList <+: path.toList ∨ HasNumber ['['] [']', '[', '+'] path.toList

theorem not_signed {path : String} (hroot : ¬ "Root[+".toList <+: path.toList)
    (hbehind : ¬ [']', '[', '+'] <:+: path.toList) : ¬ Signed path := by
  rintro (h | ⟨digits, -, -, h⟩)
  · exact hroot h
  · exact hbehind ((List.suffix_append (['['] ++ digits) _).isInfix.trans h)

theorem toDigits_of_isDigit {d : Char} (hd : d.isDigit = true) :
    d.toNat - 48 < 10 ∧ Nat.toDigits 10 (d.toNat - 48) = [d] := by
  obtain ⟨hlow, hhigh⟩ : 48 ≤ d.toNat ∧ d.toNat ≤ 57 := Char.isDigit_iff_toNat.mp hd
  have hlt : d.toNat - 48 < 10 := by omega
  have hchar : Nat.digitChar (d.toNat - 48) = d := by
    rw [← Char.toNat_inj, Nat.toNat_digitChar_of_lt_ten hlt]
    omega
  exact ⟨hlt, by rw [Nat.toDigits_of_lt_base hlt, hchar]⟩

/-- Reading on from a number other than zero adds digits to its numeral. -/
theorem toDigits_ofDigitChars {digits : List Char} (hd : ∀ d ∈ digits, d.isDigit = true) {n : Nat}
    (hn : 0 < n) :
    Nat.toDigits 10 (Nat.ofDigitChars 10 digits n) = Nat.toDigits 10 n ++ digits := by
  induction digits generalizing n with
  | nil => simp
  | cons d rest ih =>
    obtain ⟨hfirst, hrest⟩ := List.forall_mem_cons.mp hd
    obtain ⟨hlt, hdigit⟩ := toDigits_of_isDigit hfirst
    have hzero : '0'.toNat = 48 := rfl
    rw [Nat.ofDigitChars_cons, hzero, ih hrest (by omega),
      ← Nat.toDigits_append_toDigits (by decide) hn hlt, hdigit, List.append_assoc,
      List.singleton_append]

/-- Digits without a needless zero in front are the numeral of the number they stand for. -/
theorem toDigits_of_not_padded {digits : List Char} (hne : digits ≠ [])
    (hd : ∀ d ∈ digits, d.isDigit = true) (hpad : ∀ more, digits = '0' :: more → more = []) :
    Nat.toDigits 10 (Nat.ofDigitChars 10 digits 0) = digits := by
  cases digits with
  | nil => exact absurd rfl hne
  | cons d rest =>
    obtain ⟨hfirst, hrest⟩ := List.forall_mem_cons.mp hd
    by_cases hz : d = '0'
    · subst hz
      obtain rfl := hpad rest rfl
      decide
    · obtain ⟨hlt, hdigit⟩ := toDigits_of_isDigit hfirst
      have hzero : '0'.toNat = 48 := rfl
      have hlow : 48 ≤ d.toNat := (Char.isDigit_iff_toNat.mp hfirst).1
      have hnot : d.toNat ≠ 48 := fun h => hz (Char.toNat_inj.mp h)
      have hpos : 0 < d.toNat - 48 := by omega
      rw [Nat.ofDigitChars_cons, hzero, Nat.mul_zero, Nat.zero_add,
        toDigits_ofDigitChars hrest hpos, hdigit, List.singleton_append]

theorem infix_of_infix_append {x : Char} {xs rest more : List Char} (hx : x ∉ xs)
    (h : x :: more <:+: xs ++ rest) : x :: more <:+: rest := by
  induction xs with
  | nil => exact h
  | cons c xs ih =>
    obtain ⟨hc, hxs⟩ := not_or.mp (mt List.mem_cons.mpr hx)
    rcases List.infix_cons_iff.mp h with hfirst | h
    · exact absurd (List.cons_prefix_cons.mp hfirst).1 hc
    · exact ih hxs h

/-- A bracketed number behind the beginning of a clean key stands behind the whole key. -/
theorem infix_of_infix_key {key rest number : List Char} (hkey : splitKey key = (key, []))
    (hrest : AtStep rest) (hopen : opensIndex number = true)
    (h : '[' :: number <:+: key ++ rest) : '[' :: number <:+: rest := by
  induction key with
  | nil => exact h
  | cons c key ih =>
    have hstop : ¬ AtStep (c :: (key ++ rest)) := fun hat => by
      have hsplit := hat.symm.trans (splitKey_append hkey hrest)
      simp at hsplit
    rcases List.infix_cons_iff.mp h with hfirst | h
    · obtain ⟨rfl, more, hmore⟩ := List.cons_prefix_cons.mp hfirst
      refine absurd (atStep_cons.mpr (Or.inr ⟨rfl, ?_⟩)) hstop
      have hwhole : number ++ more = key ++ rest := hmore
      rw [← hwhole]
      exact opensIndex_append_of_opensIndex hopen more
    · exact ih (splitKey_cons_eq_iff.mp hkey).2 h

/-- No index that is written has needless zeros in front. -/
theorem not_padded_stepsChars {steps : List Step} (hclean : ∀ s ∈ steps, s.Clean) :
    ¬ HasNumber ['[', '0'] [']'] (stepsChars steps) := by
  induction steps with
  | nil => simp [HasNumber, stepsChars]
  | cons s rest ih =>
    obtain ⟨hs, hrest⟩ := List.forall_mem_cons.mp hclean
    rintro ⟨digits, hne, hd, hin⟩
    replace hin : '[' :: '0' :: (digits ++ [']']) <:+: stepsChars (s :: rest) := hin
    cases s with
    | key k =>
      rw [stepsChars_key] at hin
      have hopen : opensIndex ('0' :: (digits ++ [']'])) = true :=
        opensIndex_iff.mpr ⟨'0' :: digits, [], rfl, by simp, by simpa using hd⟩
      have hdot : '[' ∉ ['.'] := by decide
      have hbehind := infix_of_infix_append hdot hin
      have hlater := infix_of_infix_key (cleanKey_iff.mp hs) (atStep_stepsChars rest) hopen hbehind
      exact ih hrest ⟨digits, hne, hd, hlater⟩
    | index i =>
      rw [stepsChars_index] at hin
      rcases List.infix_cons_iff.mp hin with hfirst | hbehind
      · -- the digits end at the same bracket as those of the index
        obtain ⟨-, more, hmore⟩ := List.cons_prefix_cons.mp hfirst
        have hnumber : '0' :: digits = Nat.toDigits 10 i := by
          have hspan : ('0' :: digits ++ ']' :: more).takeWhile Char.isDigit = '0' :: digits :=
            Text.takeWhile_digits (by simpa using hd) (by simp)
          rw [← hspan, ← takeWhile_digits i (stepsChars rest), ← hmore]
          simp
        obtain ⟨c, ds, hds, -, hzero⟩ := Text.digits_eq_cons i
        obtain ⟨rfl, rfl⟩ := List.cons.inj (hnumber.trans hds)
        exact hne (hzero rfl).2
      · have hbrackets : '[' ∉ Nat.toDigits 10 i ++ [']'] := by
          rw [List.mem_append, List.mem_singleton, not_or]
          exact ⟨fun hm => absurd (Text.isDigit_of_mem_digits hm) (by decide), by decide⟩
        refine ih hrest ⟨digits, hne, hd, infix_of_infix_append hbrackets ?_⟩
        simpa using hbehind

/-! ## Paths written back -/

/-- What is read without a sign and without needless zeros is what would be written. -/
theorem Reads.stepsChars_eq {cs : List Char} {steps : List Step} (h : Reads cs steps)
    (hfirst : ¬ ['[', '+'] <+: cs) (hsign : ¬ HasNumber ['['] [']', '[', '+'] cs)
    (hpad : ¬ HasNumber ['[', '0'] [']'] cs) : stepsChars steps = cs := by
  induction h with
  | nil => rfl
  | @key k rest steps hk hafter _ ih =>
    have hrest : rest <:+: '.' :: (k.toList ++ rest) :=
      (List.suffix_append ('.' :: k.toList) rest).isInfix
    -- behind a key nothing but digits opens an index
    have hnext : ¬ ['[', '+'] <+: rest := by
      rintro ⟨more, rfl⟩
      simp [atStep_cons, opensIndex] at hafter
    rw [stepsChars_key,
      ih hnext (fun h => hsign (h.of_infix hrest)) fun h => hpad (h.of_infix hrest)]
  | @index text i rest steps hi _ ih =>
    have hrest : rest <:+: '[' :: (text ++ ']' :: rest) := by
      simpa using (List.suffix_append ('[' :: (text ++ [']'])) rest).isInfix
    obtain ⟨-, digits, rfl | rfl, hne, hd, rfl⟩ := index?_eq_some_iff.mp hi
    · have hnext : ¬ ['[', '+'] <+: rest := by
        rintro ⟨more, rfl⟩
        exact hsign ⟨text, hne, hd, [], more, by simp⟩
      have hnumeral : Nat.toDigits 10 (Nat.ofDigitChars 10 text 0) = text := by
        refine toDigits_of_not_padded hne hd fun more he => ?_
        subst he
        have hmore : ∀ d ∈ more, d.isDigit = true := fun d hm => hd d (List.mem_cons_of_mem _ hm)
        exact Classical.byContradiction fun hnot => hpad ⟨more, hnot, hmore, [], rest, by simp⟩
      rw [stepsChars_index, hnumeral,
        ih hnext (fun h => hsign (h.of_infix hrest)) fun h => hpad (h.of_infix hrest)]
    · exact absurd ⟨digits ++ ']' :: rest, rfl⟩ hfirst

/-- A path without signs is the one its steps are written as unless an index in it is padded. -/
theorem ofSteps_eq_iff {path : String} {steps : List Step} (h : steps? path = some steps)
    (hsign : ¬ Signed path) : ofSteps steps = path ↔ ¬ Padded path := by
  obtain ⟨rest, hpath, hreads⟩ := steps?_eq_some_iff.mp h
  have hroot : '[' ∉ root.toList := by decide
  rw [← String.toList_inj, toList_ofSteps, hpath, List.append_cancel_left_eq]
  constructor
  · rintro rfl ⟨digits, hne, hd, hin⟩
    rw [hpath] at hin
    exact not_padded_stepsChars hreads.clean ⟨digits, hne, hd, infix_of_infix_append hroot hin⟩
  · intro hpad
    have hrest : rest <:+: path.toList := hpath ▸ (List.suffix_append _ rest).isInfix
    refine hreads.stepsChars_eq ?_ (fun h => hsign (Or.inr (h.of_infix hrest)))
      fun h => hpad (h.of_infix hrest)
    rintro ⟨more, rfl⟩
    refine hsign (Or.inl ⟨more, ?_⟩)
    rw [hpath]
    rfl

/-- The path written for the steps that are read is accepted as well, for the same steps. -/
theorem steps?_ofSteps_of_steps? {path : String} {steps : List Step}
    (h : steps? path = some steps) : steps? (ofSteps steps) = some steps := by
  obtain ⟨rest, _, hreads⟩ := steps?_eq_some_iff.mp h
  exact steps?_ofSteps hreads.clean hreads.index_lt

/-- **Paths are written back unless an index is padded.** The path written for the steps that any
path is read as is read as these steps again. It is the path itself, where indices have no sign,
exactly if no bracketed number in the path has needless zeros in front; so two different paths
without such signs and zeros are never read as the same steps. A path whose children are listed
belongs to a node that rows, open containers and matches know by the path written for its steps. -/
theorem written_back_unless_padded :
    (∀ (path : String) (steps : List Step), steps? path = some steps →
      steps? (ofSteps steps) = some steps ∧
      (¬ Signed path → (ofSteps steps = path ↔ ¬ Padded path))) ∧
    (∀ (path path' : String) (steps : List Step), steps? path = some steps →
      steps? path' = some steps → ¬ Signed path → ¬ Signed path' → ¬ Padded path →
      ¬ Padded path' → path = path') ∧
    ∀ (document : Value) (path : String) (offset count : Nat) (limit : Option Nat)
      (listed : List Outline.Child), document.KeysDistinct →
      Outline.page? document path offset count limit = some listed →
      ∃ steps node, steps? path = some steps ∧ resolve document path = some node ∧
        resolve document (ofSteps steps) = some node ∧
        Outline.nodeRow limit (steps, node) ∈
          Outline.rows document (Search.expandablePaths document) limit ∧
        (node.isContainer = true → ofSteps steps ∈ Search.expandablePaths document) ∧
        ∀ test, Search.nodeMatches test (name (ofSteps steps)) node = true →
          ofSteps steps ∈ Search.matchPaths test document := by
  refine ⟨fun path steps h => ⟨steps?_ofSteps_of_steps? h, ofSteps_eq_iff h⟩, ?_, ?_⟩
  · intro path path' steps h h' hsign hsign' hpad hpad'
    rw [← (ofSteps_eq_iff h hsign).mpr hpad, (ofSteps_eq_iff h' hsign').mpr hpad']
  · intro document path offset count limit listed distinct hlisted
    obtain ⟨node, hnode, -⟩ := Option.map_eq_some_iff.mp hlisted
    obtain ⟨steps, hsteps, hget⟩ := Option.bind_eq_some_iff.mp hnode
    have hmem : (steps, node) ∈ document.nodes := (Value.mem_nodes_iff distinct).mpr hget
    refine ⟨steps, node, hsteps, hnode, ?_, ?_, ?_, ?_⟩
    · rw [resolve, steps?_ofSteps_of_steps? hsteps]
      exact hget
    · rw [Outline.rows_eq, Outline.reached_expandablePaths]
      exact List.mem_map_of_mem hmem
    · intro hcontainer
      exact Search.mem_expandablePaths_iff.mpr ⟨_, hmem, hcontainer, rfl⟩
    · intro test hmatch
      exact Search.mem_matchPaths_iff.mpr ⟨_, hmem, hmatch, rfl⟩

/-- An index is accepted with a zero in front, where no row and no open container has the path. -/
theorem padded_index_accepted :
    steps? "Root[01]" = some [.index 1] ∧ ofSteps [.index 1] ≠ "Root[01]" ∧
      steps? "Root[1]" = some [.index 1] ∧
      let document := Value.array [.null, .array [.null]]
      (Outline.page? document "Root[01]" 0 1 none).map (·.map (·.path)) = some ["Root[01][0]"] ∧
        "Root[01]" ∉ (Outline.rows document (Search.expandablePaths document) none).map (·.path) ∧
        "Root[01]" ∉ Search.expandablePaths document := by
  refine ⟨by decide +kernel, by decide, by decide +kernel, by decide +kernel, ?_, ?_⟩
  · rw [Outline.rows_eq, Outline.reached_expandablePaths]
    decide +kernel
  · rw [Search.mem_expandablePaths_iff]
    decide +kernel

/-- A list under a key that looks like it had a signed index. -/
def lookalike : Value :=
  .object [("a[+1]", .array [.null, .object [("x", .null)]])]

theorem written_back_unless_padded_lookalike :
    let steps := [.key "a[+1]", .index 1]
    steps? "Root.a[+1][1]" = some steps ∧ ¬ Signed "Root.a[+1][1]" ∧
      ¬ Padded "Root.a[+1][1]" ∧ "Root.a[+1][1]" = ofSteps steps ∧
      steps? "Root.a[+1][001]" = some steps ∧ ¬ Signed "Root.a[+1][001]" ∧
      Padded "Root.a[+1][001]" ∧ lookalike.KeysDistinct ∧
      (Outline.page? lookalike "Root.a[+1][001]" 0 1 none).isSome = true ∧
      "Root.a[+1][1]" ∈ Search.expandablePaths lookalike := by
  intro steps
  have hread : steps? "Root.a[+1][1]" = some steps := by decide +kernel
  have hpadded : steps? "Root.a[+1][001]" = some steps := by decide +kernel
  have hwritten : ofSteps steps = "Root.a[+1][1]" := by decide +kernel
  have hsign : ¬ Signed "Root.a[+1][1]" := not_signed (by decide) (by decide +kernel)
  have hsign' : ¬ Signed "Root.a[+1][001]" := not_signed (by decide) (by decide +kernel)
  have distinct : lookalike.KeysDistinct := by
    simp [lookalike, Value.KeysDistinct, Value.ItemsKeysDistinct, Value.FieldsKeysDistinct,
      Entries.names]
  have hlisted : (Outline.page? lookalike "Root.a[+1][001]" 0 1 none).isSome = true := by
    decide +kernel
  obtain ⟨hback, hunique, hknown⟩ := written_back_unless_padded
  have hpad : ¬ Padded "Root.a[+1][1]" := ((hback _ _ hread).2 hsign).mp hwritten
  refine ⟨hread, hsign, hpad, ?_, hpadded, hsign', ?_, distinct, hlisted, ?_⟩
  · exact hunique _ _ steps hread (hback _ _ hread).1 hsign (hwritten ▸ hsign) hpad
      (hwritten ▸ hpad)
  · refine Classical.byContradiction fun hnot => ?_
    have hsame := ((hback _ _ hpadded).2 hsign').mpr hnot
    rw [hwritten] at hsame
    exact absurd hsame (by decide)
  · obtain ⟨listed, hlisted⟩ := Option.isSome_iff_exists.mp hlisted
    obtain ⟨steps', node, hsteps, hnode, -, -, hopen, -⟩ := hknown _ _ _ _ _ _ distinct hlisted
    obtain rfl : steps = steps' := Option.some.inj (hpadded.symm.trans hsteps)
    obtain rfl : .object [("x", .null)] = node := Option.some.inj (.trans rfl hnode)
    rw [← hwritten]
    exact hopen rfl

end JsonExplorer.Path
