import JsonExplorer.Proofs.Text.Ranges
import JsonExplorer.Text.Case
import Mathlib.Data.List.Sort

/-!
What words are made of, in lower case. Lower-casing a character of a word gives characters of words
(`isAlphanumeric_of_mem_lowerChar`), with one exception: the capital I with a dot above, whose dot
becomes a mark of its own. All other characters are left as they are
(`lowerChar_of_not_isAlphanumeric`). Both are read off the tables: the code points of the case runs
and their images, in ascending order, are gone through together with the ranges of which words are
made (`outside`).
-/

namespace JsonExplorer.Text

/-! ## Ranges of which words are made -/

/-- The categories whose characters may stand in a word. -/
def Category.inWords : Category → Bool
  | .lu | .ll | .lt | .lm | .lo | .nd | .nl | .no => true
  | _ => false

def Category.wordRanges : List (Nat × Nat) :=
  runs.toList.filterMap fun r => if r.2.2.inWords then some (r.1, r.2.1) else none

variable {c : Char} {n : Nat}

theorem isAlphanumeric_of_inWords (h : (category c).inWords = true) : isAlphanumeric c = true := by
  unfold isAlphanumeric isAlphabetic isNumeric
  cases hc : category c <;> simp_all [Category.inWords]

theorem isAlphanumeric_of_inRanges (h : inRanges otherAlphabetic c.toNat = true) :
    isAlphanumeric c = true := by
  unfold isAlphanumeric isAlphabetic
  split <;> simp [h]

/-- Capital and small letters that take turns stand in words. -/
theorem isAlphanumeric_of_alternatingRuns {range : Nat × Nat}
    (hrange : range ∈ Category.alternatingRuns.toList) (hfirst : range.1 ≤ c.toNat)
    (hlast : c.toNat ≤ range.2) : isAlphanumeric c = true := by
  refine isAlphanumeric_of_inWords ?_
  have hfound := lastStart?_alternatingRuns hrange hfirst hlast
  simp only [category, Category.ofCodePoint, hfound, hfirst, hlast, decide_true, Bool.and_self,
    ↓reduceIte]
  split <;> rfl

theorem isAlphanumeric_of_wordRanges {range : Nat × Nat} (hrange : range ∈ Category.wordRanges)
    (hfirst : range.1 ≤ c.toNat) (hlast : c.toNat ≤ range.2) : isAlphanumeric c = true := by
  obtain ⟨row, hrow, hword⟩ := List.mem_filterMap.mp hrange
  split at hword
  · rename_i hin
    obtain rfl := Option.some.inj hword
    refine isAlphanumeric_of_inWords ?_
    have hplain : Category.ofCodePoint.plain c.toNat = row.2.2 := by
      have hfound := lastStart?_runs hrow hfirst hlast
      have hin : (decide (row.1 ≤ c.toNat) && decide (c.toNat ≤ row.2.1)) = true := by
        simp only [Bool.and_eq_true, decide_eq_true_eq]
        exact ⟨hfirst, hlast⟩
      unfold Category.ofCodePoint.plain
      simp only [hfound]
      exact if_pos hin
    -- a range in which capital and small letters take turns goes before
    simp only [category, Category.ofCodePoint, hplain]
    split
    · split
      · split <;> rfl
      · exact hin
    · exact hin
  · cases hword

/-! ## Going through the tables -/

/-- The numbers that lie in none of the ranges. Both are in ascending order; if they are not, more
numbers may be left. -/
def outside : List (Nat × Nat) → List Nat → List Nat
  | [], ns => ns
  | (first, last) :: rest, ns =>
    ns.takeWhile (Nat.blt · first) ++
      outside rest ((ns.dropWhile (Nat.blt · first)).dropWhile fun n =>
        Nat.ble first n && Nat.ble n last)

theorem mem_takeWhile_or_dropWhile {α : Type} (p : α → Bool) {l : List α} {a : α} (h : a ∈ l) :
    (a ∈ l.takeWhile p ∧ p a = true) ∨ a ∈ l.dropWhile p := by
  rw [← List.takeWhile_append_dropWhile (p := p) (l := l), List.mem_append] at h
  exact h.imp_left fun ht => ⟨ht, List.all_eq_true.mp List.all_takeWhile a ht⟩

theorem mem_outside {ranges : List (Nat × Nat)} {ns : List Nat} (h : n ∈ ns) :
    n ∈ outside ranges ns ∨ ∃ range ∈ ranges, range.1 ≤ n ∧ n ≤ range.2 := by
  induction ranges generalizing ns with
  | nil => exact Or.inl h
  | cons range rest ih =>
    rw [outside, List.mem_append]
    rcases mem_takeWhile_or_dropWhile (Nat.blt · range.1) h with ⟨hbefore, -⟩ | hbehind
    · exact Or.inl (Or.inl hbefore)
    rcases mem_takeWhile_or_dropWhile (fun n => Nat.ble range.1 n && Nat.ble n range.2) hbehind
      with ⟨-, hin⟩ | hrest
    · exact Or.inr ⟨range, List.mem_cons_self, by simpa using hin⟩
    · refine (ih hrest).imp Or.inr fun ⟨range', hrange', hin⟩ => ?_
      exact ⟨range', List.mem_cons_of_mem _ hrange', hin⟩

def outsideWords (ns : List Nat) : List Nat :=
  outside otherAlphabetic.toList
    (outside Category.wordRanges (outside Category.alternatingRuns.toList ns))

theorem isAlphanumeric_of_outsideWords {ns : List Nat} (hns : outsideWords ns = [])
    (hc : c.toNat ∈ ns) : isAlphanumeric c = true := by
  rcases mem_outside hc with hc | ⟨range, hrange, hfirst, hlast⟩
  · rcases mem_outside hc with hc | ⟨range, hrange, hfirst, hlast⟩
    · rcases mem_outside hc with hc | ⟨range, hrange, hfirst, hlast⟩
      · exact absurd hc (List.eq_nil_iff_forall_not_mem.mp hns _)
      · exact isAlphanumeric_of_inRanges (inRanges_otherAlphabetic hrange hfirst hlast)
    · exact isAlphanumeric_of_wordRanges hrange hfirst hlast
  · exact isAlphanumeric_of_alternatingRuns hrange hfirst hlast

/-! ## Case runs -/

namespace CaseRun

def length (r : CaseRun) : Nat := (r.last - r.first) / r.stride + 1

/-- The code points to which a run assigns others. -/
def points (r : CaseRun) : List Nat := List.range' r.first r.length r.stride

def images (r : CaseRun) : List Nat := List.range' r.image r.length r.stride

/-- The images of a run are characters. -/
def isValid (r : CaseRun) : Bool :=
  Nat.blt (r.image + (r.last - r.first)) 0xD800 ||
    (Nat.blt 0xDFFF r.image && Nat.blt (r.image + (r.last - r.first)) 0x110000)

end CaseRun

theorem imageIn_eq_some {runs : Array CaseRun} {m : Nat} (h : imageIn runs n = some m) :
    ∃ r ∈ runs.toList, n ∈ r.points ∧ m ∈ r.images ∧ (r.isValid = true → m.isValidChar) := by
  unfold imageIn at h
  split at h
  · rename_i r hr
    have hmem : r ∈ runs.toList := Array.mem_toList_iff.mpr (Array.mem_of_getElem? hr)
    split at h
    · rename_i hin
      obtain rfl := Option.some.inj h
      simp only [Bool.and_eq_true, decide_eq_true_eq, beq_iff_eq] at hin
      obtain ⟨⟨hfirst, hlast⟩, hmod⟩ := hin
      have hdvd : r.stride * ((n - r.first) / r.stride) = n - r.first :=
        Nat.mul_div_cancel' (Nat.dvd_of_mod_eq_zero hmod)
      have hlt : (n - r.first) / r.stride < r.length :=
        Nat.lt_succ_of_le (Nat.div_le_div_right (by omega))
      refine ⟨r, hmem, List.mem_range'.mpr ⟨_, hlt, by omega⟩,
        List.mem_range'.mpr ⟨_, hlt, by omega⟩, fun hvalid => ?_⟩
      simp only [CaseRun.isValid, Bool.or_eq_true, Bool.and_eq_true, Nat.blt_eq] at hvalid
      simp only [Nat.isValidChar]
      omega
    · cases h
  · cases h

theorem toNat_ofNat_of_isValidChar (h : n.isValidChar) : (Char.ofNat n).toNat = n := by
  rw [Char.ofNat, dif_pos h]
  rfl

theorem lowercaseRuns_isValid : lowercaseRuns.toList.all CaseRun.isValid = true := by
  decide +kernel

theorem outsideWords_points : outsideWords (lowercaseRuns.toList.flatMap CaseRun.points) = [] := by
  decide +kernel

def lowercaseImages : List Nat :=
  (lowercaseRuns.toList.insertionSort fun r r' => r.image ≤ r'.image).flatMap CaseRun.images

theorem outsideWords_lowercaseImages : outsideWords lowercaseImages = [] := by decide +kernel

/-! ## Lower case -/

/-- What has a lower-case form of its own stands in words, and so does this form. -/
theorem isAlphanumeric_of_imageIn {m : Nat} (h : imageIn lowercaseRuns c.toNat = some m) :
    isAlphanumeric c = true ∧ isAlphanumeric (Char.ofNat m) = true := by
  obtain ⟨r, hr, hpoint, himage, hchar⟩ := imageIn_eq_some h
  have hvalid := hchar (List.all_eq_true.mp lowercaseRuns_isValid r hr)
  refine ⟨isAlphanumeric_of_outsideWords outsideWords_points
    (List.mem_flatMap.mpr ⟨r, hr, hpoint⟩),
    isAlphanumeric_of_outsideWords outsideWords_lowercaseImages ?_⟩
  rw [toNat_ofNat_of_isValidChar hvalid]
  exact List.mem_flatMap.mpr ⟨r, (List.perm_insertionSort _ _).mem_iff.mpr hr, himage⟩

theorem eq_dotted (h : c.toNat = 0x130) : c = 'İ' := by
  rw [← Char.ofNat_toNat c, h]

theorem isAlphanumeric_of_mem_lowerChar (hc : isAlphanumeric c = true) (hdot : c ≠ 'İ') {d : Char}
    (hd : d ∈ lowerChar c) : isAlphanumeric d = true := by
  have hcode : c.toNat ≠ 0x130 := fun he => hdot (eq_dotted he)
  rw [lowerChar, if_neg hcode] at hd
  split at hd
  · rename_i m hm
    rw [List.mem_singleton.mp hd]
    exact (isAlphanumeric_of_imageIn hm).2
  · rw [List.mem_singleton.mp hd]
    exact hc

theorem lowerChar_of_not_isAlphanumeric (hc : isAlphanumeric c = false) : lowerChar c = [c] := by
  have hdot : isAlphanumeric 'İ' = true := by decide +kernel
  have hcode : c.toNat ≠ 0x130 := fun he => by
    obtain rfl := eq_dotted he
    simp [hdot] at hc
  rw [lowerChar, if_neg hcode]
  split
  · rename_i m hm
    simp [(isAlphanumeric_of_imageIn hm).1] at hc
  · rfl

end JsonExplorer.Text
