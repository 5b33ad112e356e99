import JsonExplorer.Proofs.Search.Words
import JsonExplorer.Proofs.Text.Lower

/-!
Searching for the exact text of a node. The trimmed term stands in itself, whatever becomes of its
case, so that a search for part of a text finds every node whose text or key it is. A search for
whole words finds these nodes as well if the term is a word; words are made of alphanumeric
characters only, and a term with any other character is found nowhere
(`exact_texts_are_found`).
-/

namespace JsonExplorer.Search

open JsonExplorer.Path (ofSteps CleanKey)
open Text (isAlphanumeric)

variable {q : Query} {document : Value}

/-- A text leaf with this text, or the value of a field with this key. The key must not look like
more than one step. -/
def CarriesText (text : String) (n : List Step × Value) : Prop :=
  n.2 = .string text ∨ CleanKey text ∧ ∃ parent, n.1 = parent ++ [.key text]

theorem mem_matches?_of_carriesText {text : String} (h : q.Finds text) {n : List Step × Value}
    (hn : n ∈ document.nodes) (hcarries : CarriesText text n) :
    ofSteps n.1 ∈ matches? q document := by
  refine mem_matches?_iff.mpr ⟨n, hn, rfl, ?_⟩
  rcases hcarries with hleaf | ⟨hclean, parent, hsteps⟩
  · exact Or.inr ⟨text, by rw [hleaf]; rfl, h⟩
  · have hname : Path.name (ofSteps n.1) = text := by
      rw [hsteps, Path.ofSteps_concat]
      exact Path.name_childKey _ hclean.1 hclean.not_endsInIndex
    exact Or.inl (hname.symm ▸ h)

/-- The needle is the trimmed term as it is compared. -/
theorem compared_trim (q : Query) : q.compared (Text.trim q.term).toList = q.needle := by
  rw [Text.trim, String.toList_ofList, Query.needle]

theorem finds_trim_substring (hmode : q.mode = .substring) (hblank : q.isBlank = false) :
    q.Finds (Text.trim q.term) := by
  rw [finds_substring_iff hmode, compared_trim]
  exact ⟨hblank, List.infix_rfl⟩

theorem finds_trim_wholeWord (hmode : q.mode = .wholeWord) (hblank : q.isBlank = false)
    (hword : q.needle.all isAlphanumeric = true) : q.Finds (Text.trim q.term) := by
  rw [finds_wholeWord_iff hmode, compared_trim]
  exact ⟨hblank, hword, standsAlone_self _⟩

/-- The needle is a word if the trimmed term is, without a dotted capital I unless case counts. -/
theorem all_needle_iff : q.needle.all isAlphanumeric = true ↔
    (Text.trim q.term).toList.all isAlphanumeric = true ∧
      (q.caseSensitive = true ∨ 'İ' ∉ (Text.trim q.term).toList) := by
  rw [← compared_trim, Query.compared]
  split
  · rename_i hcase
    simp [hcase]
  · rename_i hcase
    rw [Text.all_lowerChars]
    simp [hcase]

theorem matches?_of_not_word (hmode : q.mode = .wholeWord)
    (hword : q.needle.all isAlphanumeric = false) (document : Value) :
    matches? q document = [] := by
  have hnone : ∀ text, ¬ q.Finds text := fun text hfinds => by
    simp [((finds_wholeWord_iff hmode).mp hfinds).2.1] at hword
  refine List.eq_nil_iff_forall_not_mem.mpr fun path hpath => ?_
  obtain ⟨n, -, -, hname | ⟨text, -, htext⟩⟩ := mem_matches?_iff.mp hpath
  · exact hnone _ hname
  · exact hnone _ htext

/-- **Searching for the exact text of a node finds it.** In every document, with regard to case or
without it, a term that is not blank is found wherever it is, trimmed, a text or a clean key: as
part of a text in any case, and as a whole word if it consists of alphanumeric characters and holds
no dotted capital I unless case counts. A term with any other character is not found as a whole word
anywhere. -/
theorem exact_texts_are_found (term : String) (sensitive : Bool)
    (hblank : Text.isBlankText term = false) :
    let trimmed := Text.trim term
    (∀ document : Value, ∀ n ∈ document.nodes, CarriesText trimmed n →
      ofSteps n.1 ∈ matches? ⟨term, sensitive, .substring⟩ document ∧
      (trimmed.toList.all isAlphanumeric = true →
        sensitive = true ∨ 'İ' ∉ trimmed.toList →
        ofSteps n.1 ∈ matches? ⟨term, sensitive, .wholeWord⟩ document)) ∧
    (trimmed.toList.all isAlphanumeric = false →
      ∀ document, matches? ⟨term, sensitive, .wholeWord⟩ document = []) := by
  intro trimmed
  have hblank : ∀ mode, (Query.mk term sensitive mode).isBlank = false := fun _ => hblank
  refine ⟨fun document n hn hcarries => ⟨?_, fun hword hdot => ?_⟩, fun hword document => ?_⟩
  · exact mem_matches?_of_carriesText (finds_trim_substring rfl (hblank _)) hn hcarries
  · have hneedle : (Query.mk term sensitive .wholeWord).needle.all isAlphanumeric = true :=
      all_needle_iff.mpr ⟨hword, hdot⟩
    exact mem_matches?_of_carriesText (finds_trim_wholeWord rfl (hblank _) hneedle) hn hcarries
  · refine matches?_of_not_word rfl (Bool.eq_false_iff.mpr fun hneedle => ?_) document
    have hall : trimmed.toList.all isAlphanumeric = true := (all_needle_iff.mp hneedle).1
    simp [hall] at hword

/-- A text and a key in one document, found as a word without regard to case. -/
theorem exact_texts_are_found_name :
    let document : Value := .object [("Name", .array [.string "Name"])]
    "Root.Name" ∈ matches? ⟨" Name\t", false, .wholeWord⟩ document ∧
      "Root.Name[0]" ∈ matches? ⟨" Name\t", false, .wholeWord⟩ document := by
  intro document
  have hblank : Text.isBlankText " Name\t" = false := by decide +kernel
  have htrim : Text.trim " Name\t" = "Name" := by decide +kernel
  have hword : "Name".toList.all isAlphanumeric = true := by decide +kernel
  have hdot : 'İ' ∉ "Name".toList := by decide
  have hnodes : document.nodes = [([], document), ([.key "Name"], .array [.string "Name"]),
      ([.key "Name", .index 0], .string "Name")] := rfl
  have hfound := (exact_texts_are_found " Name\t" false hblank).1 document
  rw [htrim, hnodes] at hfound
  have hkey : CarriesText "Name" ([.key "Name"], .array [.string "Name"]) :=
    Or.inr ⟨by decide +kernel, [], rfl⟩
  have hleaf : CarriesText "Name" ([.key "Name", .index 0], .string "Name") := Or.inl rfl
  exact ⟨(hfound _ (by simp) hkey).2 hword (Or.inr hdot),
    (hfound _ (by simp) hleaf).2 hword (Or.inr hdot)⟩

/-- A text of two words is not found as a whole word, although the term is just this text. -/
theorem two_words_not_found :
    Text.isBlankText "hello world" = false ∧ Text.trim "hello world" = "hello world" ∧
      "Root.a" ∉ matches? ⟨"hello world", false, .wholeWord⟩
        (.object [("a", .string "hello world")]) := by
  have hnone : matches? ⟨"hello world", false, .wholeWord⟩
      (.object [("a", .string "hello world")]) = [] := by decide +kernel
  rw [hnone]
  exact ⟨by decide +kernel, by decide +kernel, List.not_mem_nil⟩

end JsonExplorer.Search
