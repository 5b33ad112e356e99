import JsonExplorer.Proofs.Search.Words
import JsonExplorer.Proofs.Text.Lower

/-!
Searching without regard to case. The term and the text are lower-cased each on its own, so a match
that takes account of case can be lost: a capital sigma of the term may have another form where it
stands in the text, and the dotted capital I turns into two characters, the second of which ends a
word. No other character makes a difference, and `ignoring_case_loses_nothing_iff` says for each
term whether it loses a match in some document.
-/

namespace JsonExplorer

open Text (isAlphanumeric lowerChars lowerChar lowerWithin meetsCased sigmasSettled)

variable {term text : List Char}

/-! ## Terms that are found in any case -/

/-- The lower-case form of a text in parts, if the sigmas of the middle one are settled. -/
theorem lowerChars_append (h : sigmasSettled [] term = true) (before after : List Char) :
    lowerChars (before ++ term ++ after) =
      lowerWithin [] before (term ++ after) ++ lowerChars term ++
        lowerWithin (term.reverse ++ before.reverse) after [] := by
  have hterm : lowerWithin before.reverse term after = lowerChars term :=
    Text.lowerWithin_eq h before.reverse after
  rw [lowerChars, List.append_assoc, Text.lowerFrom_append, Text.lowerFrom_append,
    Text.lowerFrom_eq_lowerWithin _ after, List.append_nil, hterm, List.append_assoc]

theorem lowerChars_isInfix (h : sigmasSettled [] term = true) (hin : term <:+: text) :
    lowerChars term <:+: lowerChars text := by
  obtain ⟨before, after, rfl⟩ := hin
  exact ⟨_, _, (lowerChars_append h before after).symm⟩

theorem StandsAlone.lower (hin : StandsAlone term text) (h : sigmasSettled [] term = true) :
    StandsAlone (lowerChars term) (lowerChars text) := by
  obtain ⟨before, after, rfl, hbefore, hafter⟩ := hin
  exact ⟨_, _, lowerChars_append h before after, Text.getLast?_lowerWithin hbefore _ _,
    Text.head?_lowerWithin hafter _ _⟩

/-! ## Terms that are lost -/

/-- A lower-case letter that can be put next to a term, other than a given one. -/
theorem exists_neighbour (unwanted : Option Char) : ∃ c : Char, some c ≠ unwanted ∧
    meetsCased [c] = true ∧ c.toNat ≠ 0x3A3 ∧ lowerChar c = [c] := by
  have ha : meetsCased ['a'] = true ∧ 'a'.toNat ≠ 0x3A3 ∧ lowerChar 'a' = ['a'] := by
    decide +kernel
  have hb : meetsCased ['b'] = true ∧ 'b'.toNat ≠ 0x3A3 ∧ lowerChar 'b' = ['b'] := by
    decide +kernel
  by_cases he : unwanted = some 'a'
  · exact ⟨'b', by simp [he], hb⟩
  · exact ⟨'a', Ne.symm he, ha⟩

/-- What is no infix of a list, but as long, is no infix of the list with one more element behind
it, unless it ends in that. -/
theorem not_isInfix_concat {l w : List Char} {c : Char} (hlength : w.length = l.length)
    (hne : w ≠ l) (hlast : some c ≠ l.getLast?) : ¬ l <:+: w ++ [c] := by
  rw [List.infix_concat_iff]
  rintro (hsuffix | hin)
  · obtain ⟨front, hfront⟩ := hsuffix
    rcases List.eq_nil_or_concat l with rfl | ⟨more, d, rfl⟩
    · exact hne (List.length_eq_zero_iff.mp hlength)
    · rw [List.concat_eq_append] at hfront hlast
      rw [← List.append_assoc] at hfront
      obtain ⟨-, hd⟩ := List.append_inj' hfront rfl
      rw [List.getLast?_concat, (List.cons.inj hd).1] at hlast
      exact hlast rfl
  · exact hne (hin.eq_of_length hlength.symm).symm

theorem not_isInfix_cons {l w : List Char} {c : Char} (hlength : w.length = l.length) (hne : w ≠ l)
    (hhead : some c ≠ l.head?) : ¬ l <:+: c :: w := by
  rw [List.infix_cons_iff]
  rintro (hfront | hin)
  · cases l with
    | nil => exact hne (List.length_eq_zero_iff.mp hlength)
    | cons d more =>
      obtain ⟨rfl, -⟩ := List.cons_prefix_cons.mp hfront
      exact hhead rfl
  · exact hne (hin.eq_of_length hlength.symm).symm

/-- The surroundings do not change how long the lower-case form of a term is. -/
theorem length_lowerWithin_eq (before term after : List Char) :
    (lowerWithin before term after).length = (lowerChars term).length := by
  rw [Text.lowerChars_eq_lowerWithin]
  exact Text.length_lowerWithin _ _ _ _ _

/-- A term with an unsettled sigma is lost next to a letter. -/
theorem exists_lost_infix (h : sigmasSettled [] term = false) :
    ∃ text, term <:+: text ∧ ¬ lowerChars term <:+: lowerChars text := by
  rcases Text.lowerWithin_ne h with hne | hne
  · obtain ⟨c, hlast, hcased, hlower⟩ := exists_neighbour (lowerChars term).getLast?
    refine ⟨term ++ [c], (List.prefix_append term [c]).isInfix, ?_⟩
    rw [Text.lowerChars_append_of_lower term (by simpa using hlower)]
    exact not_isInfix_concat (length_lowerWithin_eq _ _ _) (hne [c] hcased) hlast
  · obtain ⟨c, hhead, hcased, hlower⟩ := exists_neighbour (lowerChars term).head?
    refine ⟨[c] ++ term, (List.suffix_append [c] term).isInfix, ?_⟩
    rw [Text.lowerChars_lower_append (by simpa using hlower)]
    exact not_isInfix_cons (length_lowerWithin_eq _ _ _) (hne [c] hcased) hhead

/-- As a word it is lost next to a full stop, which case rules look through, and a letter. -/
theorem exists_lost_word (hword : term.all isAlphanumeric = true) (hdot : 'İ' ∉ term)
    (h : sigmasSettled [] term = false) :
    ∃ text, StandsAlone term text ∧ lowerChars term ∉ wordPieces (lowerChars text) := by
  have hstop : '.'.toNat ≠ 0x3A3 ∧ lowerChar '.' = ['.'] := by decide +kernel
  have ha : 'a'.toNat ≠ 0x3A3 ∧ lowerChar 'a' = ['a'] := by decide +kernel
  have hlower : ∀ c ∈ ['.', 'a'], c.toNat ≠ 0x3A3 ∧ lowerChar c = [c] :=
    List.forall_mem_cons.mpr ⟨hstop, List.forall_mem_singleton.mpr ha⟩
  have hlower' : ∀ c ∈ ['a', '.'], c.toNat ≠ 0x3A3 ∧ lowerChar c = [c] :=
    List.forall_mem_cons.mpr ⟨ha, List.forall_mem_singleton.mpr hstop⟩
  have hgap : isAlphanumeric '.' = false := by decide +kernel
  have hcased : meetsCased ['.', 'a'] = true := by decide +kernel
  have hletter : ['a'].all isAlphanumeric = true := by decide +kernel
  have hnotLetter : lowerChars term ≠ ['a'] := fun he => by
    have := Text.sigma_mem_lowerChars h
    rw [he] at this
    revert this
    decide
  have hall : ∀ before after, (lowerWithin before term after).all isAlphanumeric = true :=
    fun before after => (Text.all_lowerWithin before term after).mpr ⟨hword, hdot⟩
  rcases Text.lowerWithin_ne h with hne | hne
  · refine ⟨term ++ ['.', 'a'], ⟨[], ['.', 'a'], by simp, by simp, by simpa using hgap⟩, ?_⟩
    rw [Text.lowerChars_append_of_lower term hlower, wordPieces_append_cons (hall _ _) hgap,
      wordPieces_of_all hletter]
    simp [Ne.symm (hne _ hcased), hnotLetter]
  · refine ⟨['a', '.'] ++ term, ⟨['a', '.'], [], by simp, by simpa using hgap, by simp⟩, ?_⟩
    rw [Text.lowerChars_lower_append hlower',
      show ['a', '.'] ++ lowerWithin ['a', '.'].reverse term [] =
        ['a'] ++ '.' :: lowerWithin ['.', 'a'] term [] from rfl,
      wordPieces_append_cons hletter hgap, wordPieces_of_all (hall _ _)]
    simp [Ne.symm (hne _ hcased), hnotLetter]

/-! ## Queries with and without regard to case -/

namespace Search

variable {q q' : Query}

/-- In a document that is just a text, only the name of the root could make up for losing it. -/
theorem finds_of_matches? {text : String} (h : q.Finds text)
    (hmatches : ∀ document, ∀ path ∈ matches? q document, path ∈ matches? q' document) :
    q'.Finds "Root" ∨ q'.Finds text := by
  have hroot : Path.root ∈ matches? q (.string text) := mem_matches?_iff.mpr
    ⟨([], .string text), Value.root_mem_nodes _, rfl, Or.inr ⟨text, rfl, h⟩⟩
  obtain ⟨n, hn, -, hfinds⟩ := mem_matches?_iff.mp (hmatches _ _ hroot)
  have hname : Path.name Path.root = "Root" := by decide
  obtain rfl : n = ([], .string text) := List.mem_singleton.mp hn
  rw [hname] at hfinds
  refine hfinds.imp_right fun ⟨text', htext, hfound⟩ => ?_
  obtain rfl := Option.some.inj htext
  exact hfound

theorem isBlankText_eq_false (term : String) (h : Text.trimChars term.toList ≠ []) :
    Text.isBlankText term = false :=
  Bool.eq_false_iff.mpr fun hb => h ((Text.trimChars_eq_nil_iff _).mpr hb)

/-- The name of the root has no sigma that a lower-cased term could be found in. -/
theorem not_isInfix_root (h : sigmasSettled [] term = false) :
    ¬ lowerChars term <:+: lowerChars "Root".toList := by
  have hroot : lowerChars "Root".toList = "root".toList := by decide +kernel
  rw [hroot]
  intro hin
  rcases Text.sigma_mem_lowerChars h with hsigma | hsigma <;>
    exact absurd (hin.subset hsigma) (by decide)

theorem substring_loses_nothing_iff (term : String) :
    (∀ document, ∀ path ∈ matches? ⟨term, true, .substring⟩ document,
        path ∈ matches? ⟨term, false, .substring⟩ document) ↔
      sigmasSettled [] (Text.trimChars term.toList) = true := by
  have hexact : ∀ text, (Query.mk term true .substring).Finds text ↔
      Text.isBlankText term = false ∧ Text.trimChars term.toList <:+: text.toList :=
    fun _ => finds_substring_iff rfl
  have hfolded : ∀ text, (Query.mk term false .substring).Finds text ↔
      Text.isBlankText term = false ∧
        lowerChars (Text.trimChars term.toList) <:+: lowerChars text.toList :=
    fun _ => finds_substring_iff rfl
  constructor
  · intro hmatches
    by_contra hsettled
    rw [Bool.not_eq_true] at hsettled
    have hblank := isBlankText_eq_false term fun hnil => by simp [hnil, sigmasSettled] at hsettled
    obtain ⟨text, hin, hlost⟩ := exists_lost_infix hsettled
    have hfinds := (hexact (String.ofList text)).mpr ⟨hblank, by rwa [String.toList_ofList]⟩
    rcases finds_of_matches? hfinds hmatches with hroot | htext
    · exact not_isInfix_root hsettled ((hfolded _).mp hroot).2
    · have hfound := ((hfolded _).mp htext).2
      rw [String.toList_ofList] at hfound
      exact hlost hfound
  · intro hsettled document path
    refine matches?_mono fun text htext => ?_
    obtain ⟨hblank, hin⟩ := (hexact text).mp htext
    exact (hfolded text).mpr ⟨hblank, lowerChars_isInfix hsettled hin⟩

theorem wholeWord_loses_nothing_iff (term : String) :
    (∀ document, ∀ path ∈ matches? ⟨term, true, .wholeWord⟩ document,
        path ∈ matches? ⟨term, false, .wholeWord⟩ document) ↔
      (Text.trimChars term.toList).all isAlphanumeric = false ∨
        'İ' ∉ Text.trimChars term.toList ∧
          sigmasSettled [] (Text.trimChars term.toList) = true := by
  have hexact : ∀ text, (Query.mk term true .wholeWord).Finds text ↔
      Text.isBlankText term = false ∧ (Text.trimChars term.toList).all isAlphanumeric = true ∧
        StandsAlone (Text.trimChars term.toList) text.toList :=
    fun _ => finds_wholeWord_iff rfl
  have hfolded : ∀ text, (Query.mk term false .wholeWord).Finds text ↔
      Text.isBlankText term = false ∧
        (lowerChars (Text.trimChars term.toList)).all isAlphanumeric = true ∧
        StandsAlone (lowerChars (Text.trimChars term.toList)) (lowerChars text.toList) :=
    fun _ => finds_wholeWord_iff rfl
  constructor
  · intro hmatches
    by_contra hnot
    obtain ⟨hall, hlost⟩ := not_or.mp hnot
    rw [Bool.not_eq_false] at hall
    by_cases hdot : 'İ' ∈ Text.trimChars term.toList
    · -- the term itself is a text in which it is lost
      have hblank := isBlankText_eq_false term (List.ne_nil_of_mem hdot)
      have hfinds := (hexact (Text.trim term)).mpr
        ⟨hblank, hall, by rw [Text.trim, String.toList_ofList]; exact standsAlone_self _⟩
      have hword : (lowerChars (Text.trimChars term.toList)).all isAlphanumeric = true := by
        rcases finds_of_matches? hfinds hmatches with hfound | hfound <;>
          exact ((hfolded _).mp hfound).2.1
      exact ((Text.all_lowerChars _).mp hword).2 hdot
    · have hsettled : sigmasSettled [] (Text.trimChars term.toList) = false := by
        simpa [hdot] using hlost
      have hblank := isBlankText_eq_false term fun hnil => by simp [hnil, sigmasSettled] at hsettled
      obtain ⟨text, halone, hlost⟩ := exists_lost_word hall hdot hsettled
      have hfinds := (hexact (String.ofList text)).mpr
        ⟨hblank, hall, by rwa [String.toList_ofList]⟩
      rcases finds_of_matches? hfinds hmatches with hroot | htext
      · exact not_isInfix_root hsettled ((hfolded _).mp hroot).2.2.isInfix
      · have hfound := ((hfolded _).mp htext).2
        rw [String.toList_ofList] at hfound
        exact hlost (mem_wordPieces_iff.mpr hfound)
  · intro hsettled document path
    refine matches?_mono fun text htext => ?_
    obtain ⟨hblank, hall, halone⟩ := (hexact text).mp htext
    rcases hsettled with hnone | ⟨hdot, hsettled⟩
    · simp [hall] at hnone
    · have hword := (Text.all_lowerChars _).mpr ⟨hall, hdot⟩
      exact (hfolded text).mpr ⟨hblank, hword, halone.lower hsettled⟩

/-- **When ignoring case loses nothing.** Whatever is found with regard to case is found without it,
in every document, exactly if all capital sigmas of the trimmed term are settled within it. For
whole words the term must also be without the dotted capital I, or hold a character of which no word
is made, so that it is found in neither way. -/
theorem ignoring_case_loses_nothing_iff (term : String) :
    ((∀ document, ∀ path ∈ matches? ⟨term, true, .substring⟩ document,
        path ∈ matches? ⟨term, false, .substring⟩ document) ↔
      sigmasSettled [] (Text.trimChars term.toList) = true) ∧
    ((∀ document, ∀ path ∈ matches? ⟨term, true, .wholeWord⟩ document,
        path ∈ matches? ⟨term, false, .wholeWord⟩ document) ↔
      (Text.trimChars term.toList).all isAlphanumeric = false ∨
        'İ' ∉ Text.trimChars term.toList ∧
          sigmasSettled [] (Text.trimChars term.toList) = true) :=
  ⟨substring_loses_nothing_iff term, wholeWord_loses_nothing_iff term⟩

/-- A sigma that ends a word is found with regard to case and lost without it. -/
theorem sigma_at_end_of_word_lost :
    let document : Value := .object [("a", .string "ΑΣ")]
    "Root.a" ∈ matches? ⟨"Σ", true, .substring⟩ document ∧
      "Root.a" ∉ matches? ⟨"Σ", false, .substring⟩ document := by
  intro document
  have hfolded : matches? ⟨"Σ", false, .substring⟩ document = [] := by decide +kernel
  constructor
  · refine mem_matches?_iff.mpr ⟨([.key "a"], .string "ΑΣ"), ?_, rfl, Or.inr ⟨_, rfl, ?_⟩⟩
    · exact List.mem_cons_of_mem _ (List.mem_singleton_self _)
    · exact (finds_substring_iff rfl).mpr (by decide +kernel)
  · rw [hfolded]
    exact List.not_mem_nil

end Search

end JsonExplorer
