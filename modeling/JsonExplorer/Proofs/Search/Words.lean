import JsonExplorer.Proofs.Search.Matches

/-!
The words of a text, and what plain queries find. The pieces into which a text is split are its runs
of alphanumeric characters, so that a word is among them exactly if it stands alone somewhere in the
text: with nothing alphanumeric right before it and right behind it (`mem_wordPieces_iff`). A query
finds a node by the name its path shows or by its text (`mem_matches?_iff`); without a pattern it
finds a text in which the needle stands, or stands alone (`finds_substring_iff`,
`finds_wholeWord_iff`). So what is found of a word as a whole is also found as part of a text
(`whole_words_stand_alone`).
-/

namespace JsonExplorer

open Text (isAlphanumeric)

variable {word cs : List Char}

/-- Stands in `cs` with no alphanumeric character right before it and none right behind it. -/
def StandsAlone (word cs : List Char) : Prop :=
  ∃ before after, cs = before ++ word ++ after ∧
    (∀ c ∈ before.getLast?, isAlphanumeric c = false) ∧
    ∀ c ∈ after.head?, isAlphanumeric c = false

theorem StandsAlone.isInfix (h : StandsAlone word cs) : word <:+: cs := by
  obtain ⟨before, after, rfl, -, -⟩ := h
  exact ⟨before, after, rfl⟩

theorem standsAlone_self (cs : List Char) : StandsAlone cs cs :=
  ⟨[], [], by simp, by simp, by simp⟩

/-- The first piece is what stands in front of the first other character. -/
theorem wordPieces_eq_cons (cs : List Char) :
    wordPieces cs = cs.takeWhile isAlphanumeric :: (wordPieces cs).tail := by
  induction cs with
  | nil => rfl
  | cons c rest ih =>
    rw [wordPieces, ih]
    by_cases hc : isAlphanumeric c = true <;> simp [hc]

theorem tail_wordPieces_cons (c : Char) (rest : List Char) :
    (wordPieces (c :: rest)).tail =
      if isAlphanumeric c then (wordPieces rest).tail else wordPieces rest := by
  rw [wordPieces, wordPieces_eq_cons rest]
  by_cases hc : isAlphanumeric c = true <;> simp [hc]

theorem eq_takeWhile_iff : word = cs.takeWhile isAlphanumeric ↔
    word.all isAlphanumeric = true ∧
      ∃ after, cs = word ++ after ∧ ∀ c ∈ after.head?, isAlphanumeric c = false := by
  constructor
  · rintro rfl
    refine ⟨List.all_takeWhile, cs.dropWhile isAlphanumeric, by simp, fun c hc => ?_⟩
    have hfirst := List.head?_dropWhile_not isAlphanumeric cs
    rw [Option.mem_def.mp hc] at hfirst
    exact hfirst
  · rintro ⟨hword, after, rfl, hafter⟩
    have hnone : after.takeWhile isAlphanumeric = [] := by
      cases after with
      | nil => rfl
      | cons c after => simp [hafter c rfl]
    rw [List.takeWhile_append_of_pos (List.all_eq_true.mp hword), hnone, List.append_nil]

/-- A piece may be taken off the front. -/
theorem wordPieces_append_cons (hword : word.all isAlphanumeric = true) {c : Char}
    (hc : isAlphanumeric c = false) (rest : List Char) :
    wordPieces (word ++ c :: rest) = word :: wordPieces rest := by
  induction word with
  | nil =>
    rw [List.nil_append, wordPieces, wordPieces_eq_cons rest]
    simp [hc]
  | cons d word ih =>
    simp only [List.all_cons, Bool.and_eq_true] at hword
    rw [List.cons_append, wordPieces, ih hword.2]
    simp [hword.1]

theorem wordPieces_of_all (hword : word.all isAlphanumeric = true) : wordPieces word = [word] := by
  induction word with
  | nil => rfl
  | cons d word ih =>
    simp only [List.all_cons, Bool.and_eq_true] at hword
    rw [wordPieces, ih hword.2]
    simp [hword.1]

/-- The other pieces stand behind another character. -/
theorem mem_tail_wordPieces_iff : word ∈ (wordPieces cs).tail ↔
    word.all isAlphanumeric = true ∧
      ∃ before c after, cs = before ++ c :: (word ++ after) ∧ isAlphanumeric c = false ∧
        ∀ d ∈ after.head?, isAlphanumeric d = false := by
  induction cs with
  | nil => simp [wordPieces]
  | cons c rest ih =>
    rw [tail_wordPieces_cons]
    by_cases hc : isAlphanumeric c = true
    · rw [if_pos hc, ih]
      refine and_congr_right fun _ => ⟨?_, ?_⟩
      · rintro ⟨before, d, after, rfl, hd, hafter⟩
        exact ⟨c :: before, d, after, rfl, hd, hafter⟩
      · rintro ⟨before, d, after, he, hd, hafter⟩
        cases before with
        | nil =>
          obtain ⟨rfl, -⟩ := List.cons.inj he
          simp [hc] at hd
        | cons b before => exact ⟨before, d, after, (List.cons.inj he).2, hd, hafter⟩
    · rw [if_neg hc, wordPieces_eq_cons rest, List.mem_cons, eq_takeWhile_iff, ih, ← and_or_left]
      refine and_congr_right fun _ => ⟨?_, ?_⟩
      · rintro (⟨after, rfl, hafter⟩ | ⟨before, d, after, rfl, hd, hafter⟩)
        · exact ⟨[], c, after, rfl, by simpa using hc, hafter⟩
        · exact ⟨c :: before, d, after, rfl, hd, hafter⟩
      · rintro ⟨before, d, after, he, hd, hafter⟩
        cases before with
        | nil => exact Or.inl ⟨after, (List.cons.inj he).2, hafter⟩
        | cons b before => exact Or.inr ⟨before, d, after, (List.cons.inj he).2, hd, hafter⟩

/-- **The pieces of a text are the words that stand alone in it.** -/
theorem mem_wordPieces_iff :
    word ∈ wordPieces cs ↔ word.all isAlphanumeric = true ∧ StandsAlone word cs := by
  rw [wordPieces_eq_cons, List.mem_cons, eq_takeWhile_iff, mem_tail_wordPieces_iff, ← and_or_left]
  refine and_congr_right fun _ => ⟨?_, ?_⟩
  · rintro (⟨after, rfl, hafter⟩ | ⟨before, c, after, rfl, hc, hafter⟩)
    · exact ⟨[], after, rfl, by simp, hafter⟩
    · refine ⟨before ++ [c], after, by simp, fun d hd => ?_, hafter⟩
      rw [List.getLast?_concat] at hd
      obtain rfl := Option.some.inj hd
      exact hc
  · rintro ⟨before, after, rfl, hbefore, hafter⟩
    rcases List.eq_nil_or_concat before with rfl | ⟨front, c, rfl⟩
    · exact Or.inl ⟨after, rfl, hafter⟩
    · rw [List.concat_eq_append] at hbefore ⊢
      exact Or.inr ⟨front, c, after, by simp, hbefore c List.getLast?_concat, hafter⟩

/-! ## Queries -/

/-- Whether a query finds a text. A blank one finds none, nor does an invalid pattern. -/
def Query.Finds (q : Query) (text : String) : Prop :=
  ∃ test, Search.test? q = some test ∧ test text = true

theorem test?_of_isBlank {q : Query} (hblank : q.isBlank = true) : Search.test? q = none := by
  simp [Search.test?, Query.testWith?, hblank]

theorem test?_substring {q : Query} (hmode : q.mode = .substring) (hblank : q.isBlank = false) :
    Search.test? q = some fun text => occursIn q.needle (q.compared text.toList) := by
  simp [Search.test?, Query.testWith?, hmode, hblank]

theorem test?_wholeWord {q : Query} (hmode : q.mode = .wholeWord) (hblank : q.isBlank = false) :
    Search.test? q = some fun text =>
      (wordPieces (q.compared text.toList)).contains q.needle := by
  simp [Search.test?, Query.testWith?, hmode, hblank]

theorem finds_substring_iff {q : Query} (hmode : q.mode = .substring) {text : String} :
    q.Finds text ↔ q.isBlank = false ∧ q.needle <:+: q.compared text.toList := by
  by_cases hb : q.isBlank = true <;>
    simp [Query.Finds, Search.test?, Query.testWith?, hmode, hb, occursIn_iff]

theorem finds_wholeWord_iff {q : Query} (hmode : q.mode = .wholeWord) {text : String} :
    q.Finds text ↔ q.isBlank = false ∧ q.needle.all isAlphanumeric = true ∧
      StandsAlone q.needle (q.compared text.toList) := by
  rw [← mem_wordPieces_iff]
  by_cases hb : q.isBlank = true <;>
    simp [Query.Finds, Search.test?, Query.testWith?, hmode, hb]

namespace Search

open JsonExplorer.Path (ofSteps)

variable {q q' : Query} {document : Value} {path : String}

/-- A query lists the paths of the nodes whose name, as the path shows it, or whose text it
finds. -/
theorem mem_matches?_iff : path ∈ matches? q document ↔
    ∃ n ∈ document.nodes, ofSteps n.1 = path ∧
      (q.Finds (Path.name path) ∨ ∃ text, n.2.leafText? = some text ∧ q.Finds text) := by
  cases ht : test? q with
  | none => simp [matches?, Query.Finds, ht]
  | some test =>
    simp only [matches?, ht, mem_matchPaths_iff, Query.Finds, Option.some.injEq, exists_eq_left']
    refine exists_congr fun n => and_congr_right fun hn => ?_
    constructor
    · rintro ⟨hhit, rfl⟩
      exact ⟨rfl, by simpa [hits, nodeMatches, Option.any_eq_true] using hhit⟩
    · rintro ⟨rfl, hhit⟩
      exact ⟨by simpa [hits, nodeMatches, Option.any_eq_true] using hhit, rfl⟩

theorem matches?_mono (h : ∀ text, q.Finds text → q'.Finds text)
    (hpath : path ∈ matches? q document) : path ∈ matches? q' document := by
  obtain ⟨n, hn, hpath, hfinds⟩ := mem_matches?_iff.mp hpath
  refine mem_matches?_iff.mpr ⟨n, hn, hpath, ?_⟩
  exact hfinds.imp (h _) fun ⟨text, htext, hfound⟩ => ⟨text, htext, h _ hfound⟩

theorem finds_substring_of_wholeWord (hmode : q.mode = .wholeWord) {text : String}
    (h : q.Finds text) : Query.Finds { q with mode := .substring } text := by
  obtain ⟨hblank, -, halone⟩ := (finds_wholeWord_iff hmode).mp h
  exact (finds_substring_iff rfl).mpr ⟨hblank, halone.isInfix⟩

/-- **Whole words stand alone.** A query for whole words has a test unless it is blank. If its
needle is a word, a text passes exactly if the needle stands somewhere in it, with no alphanumeric
character right before it and none right behind it. The text then passes the test for part of a text
as well, so that in every document a search for the word as part of a text finds at least as
much. -/
theorem whole_words_stand_alone (hmode : q.mode = .wholeWord)
    (hword : q.needle.all isAlphanumeric = true) :
    (test? q = none ↔ q.isBlank = true) ∧
    (∀ whole, test? q = some whole → ∃ part, test? { q with mode := .substring } = some part ∧
      ∀ text, (whole text = true ↔ StandsAlone q.needle (q.compared text.toList)) ∧
        (whole text = true → part text = true)) ∧
    ∀ document, ∀ path ∈ matches? q document,
      path ∈ matches? { q with mode := .substring } document := by
  refine ⟨⟨fun hnone => ?_, test?_of_isBlank⟩, fun whole hwhole => ?_, fun document path hpath =>
    matches?_mono (fun _ => finds_substring_of_wholeWord hmode) hpath⟩
  · by_contra hblank
    rw [test?_wholeWord hmode (Bool.eq_false_iff.mpr hblank)] at hnone
    cases hnone
  · have hblank : q.isBlank = false := Bool.eq_false_iff.mpr fun hblank => by
      rw [test?_of_isBlank hblank] at hwhole
      cases hwhole
    rw [test?_wholeWord hmode hblank] at hwhole
    obtain rfl := Option.some.inj hwhole
    refine ⟨_, test?_substring rfl hblank, fun text => ?_⟩
    have halone : (wordPieces (q.compared text.toList)).contains q.needle = true ↔
        StandsAlone q.needle (q.compared text.toList) := by
      rw [List.contains_iff_mem, mem_wordPieces_iff]
      exact and_iff_right hword
    exact ⟨halone, fun hfound => (occursIn_iff _ _).mpr (halone.mp hfound).isInfix⟩

/-- A word that occurs in another one twice, overlapping itself, and then stands alone. -/
theorem whole_words_stand_alone_overlapping :
    let q : Query := ⟨" ABA", false, .wholeWord⟩
    q.needle.all isAlphanumeric = true ∧ ∃ whole, test? q = some whole ∧
      whole "ababa-Aba" = true ∧ ¬ whole "ababa" = true := by
  intro q
  have hneedle : q.needle = "aba".toList := by decide +kernel
  have hword : q.needle.all isAlphanumeric = true := by decide +kernel
  have hblank : q.isBlank = false := by decide +kernel
  have htest := test?_wholeWord (q := q) rfl hblank
  obtain ⟨part, -, hwhole⟩ := (whole_words_stand_alone (q := q) rfl hword).2.1 _ htest
  refine ⟨hword, _, htest, (hwhole "ababa-Aba").1.mpr ?_, by decide +kernel⟩
  have hcompared : q.compared "ababa-Aba".toList = "ababa-".toList ++ "aba".toList ++ [] := by
    decide +kernel
  have hstop : isAlphanumeric '-' = false := by decide +kernel
  rw [hcompared, hneedle]
  exact ⟨_, [], rfl, by simpa using hstop, by simp⟩

end Search

end JsonExplorer
