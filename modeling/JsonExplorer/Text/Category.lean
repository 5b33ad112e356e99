import JsonExplorer.Text.CategoryTable
import JsonExplorer.Text.PropertyTable

/-!
Character classes of Unicode: the general category of a character and the properties built on it,
looked up in tables sorted by their first code point. `isBlank` is what trimming removes, and
`isAlphanumeric` is what a word is made of.
-/

namespace JsonExplorer.Text

/-! ## Tables -/

/-- Halves the window `[lo, hi)` of rows until the last row that starts at or before `n` is
found. -/
def lastStartIn {α : Type} (start : α → Nat) (rows : Array α) (n : Nat) : Nat → Nat → Nat → Nat
  | 0, lo, _ => lo
  | fuel + 1, lo, hi =>
    if hi ≤ lo + 1 then lo
    else
      let mid := (lo + hi) / 2
      match rows[mid]? with
      | some row =>
        if start row ≤ n then lastStartIn start rows n fuel mid hi
        else lastStartIn start rows n fuel lo mid
      | none => lo

/-- The last row that starts at or before `n`, or the first row if all start later. A table of up
to `2 ^ 32` rows is searched in full. -/
def lastStart? {α : Type} (start : α → Nat) (rows : Array α) (n : Nat) : Option α :=
  rows[lastStartIn start rows n 32 0 rows.size]?

/-- Whether `n` lies in one of the ranges, ends included. -/
def inRanges (ranges : Array (Nat × Nat)) (n : Nat) : Bool :=
  match lastStart? (·.1) ranges n with
  | some (first, last) => first ≤ n && n ≤ last
  | none => false

/-! ## Classes -/

def Category.ofCodePoint (n : Nat) : Category :=
  match lastStart? (·.1) Category.alternatingRuns n with
  | some (first, last) =>
    if first ≤ n && n ≤ last then (if (n - first) % 2 = 0 then .lu else .ll) else plain
  | none => plain
where
  plain : Category :=
    match lastStart? (·.1) Category.runs n with
    | some (first, last, category) => if first ≤ n && n ≤ last then category else .cn
    | none => .cn

def category (c : Char) : Category := Category.ofCodePoint c.toNat

/-- White space: separators, and the controls from tab to carriage return and next line. -/
def isBlank (c : Char) : Bool :=
  match category c with
  | .zs | .zl | .zp => true
  | _ => (9 ≤ c.toNat && c.toNat ≤ 13) || c.toNat == 0x85

def isAlphabetic (c : Char) : Bool :=
  match category c with
  | .lu | .ll | .lt | .lm | .lo | .nl => true
  | _ => inRanges otherAlphabetic c.toNat

def isNumeric (c : Char) : Bool :=
  match category c with
  | .nd | .nl | .no => true
  | _ => false

def isAlphanumeric (c : Char) : Bool := isAlphabetic c || isNumeric c

def isLowercase (c : Char) : Bool := category c == .ll || inRanges otherLowercase c.toNat

def isUppercase (c : Char) : Bool := category c == .lu || inRanges otherUppercase c.toNat

/-- Has a case: capital, small or title-case. -/
def isCased (c : Char) : Bool := isLowercase c || isUppercase c || category c == .lt

/-- Looked through by case rules that depend on the neighbouring letters. -/
def isCaseIgnorable (c : Char) : Bool :=
  match category c with
  | .mn | .me | .cf | .lm | .sk => true
  | _ => inRanges otherCaseIgnorable c.toNat

def isGraphemeExtend (c : Char) : Bool :=
  match category c with
  | .mn | .me => true
  | _ => inRanges otherGraphemeExtend c.toNat

/-- Has a visible form of its own. The space counts, other separators do not. -/
def isPrintable (c : Char) : Bool :=
  match category c with
  | .cc | .cf | .cs | .co | .cn | .zl | .zp => false
  | .zs => c == ' '
  | _ => true

/-! ## Blank text -/

def trimChars (cs : List Char) : List Char :=
  ((cs.dropWhile isBlank).reverse.dropWhile isBlank).reverse

def trim (s : String) : String := String.ofList (trimChars s.toList)

def isBlankText (s : String) : Bool := s.toList.all isBlank

theorem dropBlank_eq_nil_iff (cs : List Char) :
    cs.dropWhile isBlank = [] ↔ ∀ c ∈ cs, isBlank c = true := by
  induction cs with
  | nil => simp
  | cons a rest ih =>
    by_cases ha : isBlank a = true <;> simp [ha, ih]

/-- Trimming leaves nothing exactly of blank text. -/
theorem trimChars_eq_nil_iff (cs : List Char) : trimChars cs = [] ↔ cs.all isBlank = true := by
  simp only [trimChars, List.reverse_eq_nil_iff, dropBlank_eq_nil_iff, List.mem_reverse,
    List.all_eq_true]
  constructor
  · intro h
    apply (dropBlank_eq_nil_iff cs).1
    cases hd : cs.dropWhile isBlank with
    | nil => rfl
    | cons c rest =>
      have hb := h c (by simp [hd])
      have hn := List.head_dropWhile_not (p := isBlank) (l := cs) (by simp [hd])
      simp [hd, hb] at hn
  · intro h c hc
    exact h c ((List.dropWhile_suffix _).subset hc)

/-!
## Text in messages

Text is quoted, and what has no form of its own is spelled out as a code point in hexadecimal.
-/

def visibleChar (c : Char) : List Char :=
  if c.toNat = 0 then ['\\', '0']
  else if c = '\t' then ['\\', 't']
  else if c = '\r' then ['\\', 'r']
  else if c = '\n' then ['\\', 'n']
  else if c = '\\' ∨ c = '"' then ['\\', c]
  else if isGraphemeExtend c ∨ inRanges fillers c.toNat ∨ ¬ isPrintable c then
    ['\\', 'u', '\x7b'] ++ Nat.toDigits 16 c.toNat ++ ['\x7d']
  else [c]

def visible (s : String) : String :=
  String.ofList ('"' :: (s.toList.flatMap visibleChar ++ ['"']))

end JsonExplorer.Text
