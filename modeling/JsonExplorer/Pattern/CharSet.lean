import JsonExplorer.Text.Case

/-!
Sets of characters as ranges of code points, in order and apart from each other. The word, digit
and blank sets come from the character tables, but patterns keep to edition 16 of the standard: what
later editions add has no category here and no case.
-/

namespace JsonExplorer.Pattern

/-- A set of code points. The ranges are sorted and at least one code point apart. -/
structure CharSet where
  ranges : Array (Nat × Nat)
  deriving Inhabited, DecidableEq

namespace CharSet

def mem (s : CharSet) (c : Char) : Bool := Text.inRanges s.ranges c.toNat

/-- Joins ranges that overlap or touch; those given are sorted by start. -/
def joinFrom (first last : Nat) : List (Nat × Nat) → List (Nat × Nat)
  | [] => [(first, last)]
  | (a, b) :: rest =>
    if a ≤ last + 1 then joinFrom first (max last b) rest else (first, last) :: joinFrom a b rest

/-- The set of all code points in some ranges, given in any order. -/
def ofRanges (ranges : List (Nat × Nat)) : CharSet :=
  match ranges.mergeSort (fun a b => a.1 ≤ b.1) with
  | [] => ⟨#[]⟩
  | (a, b) :: rest => ⟨(joinFrom a b rest).toArray⟩

def empty : CharSet := ⟨#[]⟩

def single (n : Nat) : CharSet := ⟨#[(n, n)]⟩

def union (s t : CharSet) : CharSet := ofRanges (s.ranges.toList ++ t.ranges.toList)

/-- The largest code point. -/
def last : Nat := 0x10FFFF

/-- What sorted ranges leave out from `next` on. -/
def gapsFrom (next : Nat) : List (Nat × Nat) → List (Nat × Nat)
  | [] => if next ≤ last then [(next, last)] else []
  | (a, b) :: rest =>
    if next < a then (next, a - 1) :: gapsFrom (b + 1) rest else gapsFrom (b + 1) rest

/-- A range without the surrogates at its ends. -/
def scalarRange? (a b : Nat) : Option (Nat × Nat) :=
  let isSurrogate (n : Nat) := 0xD800 ≤ n ∧ n ≤ 0xDFFF
  let first := if isSurrogate a then 0xE000 else a
  let last := if isSurrogate b then 0xD7FF else b
  if first ≤ last then some (first, last) else none

def complement (s : CharSet) : CharSet :=
  ⟨((gapsFrom 0 s.ranges.toList).filterMap fun (a, b) => scalarRange? a b).toArray⟩

def inter (s t : CharSet) : CharSet := (s.complement.union t.complement).complement

def diff (s t : CharSet) : CharSet := s.inter t.complement

def symmDiff (s t : CharSet) : CharSet := (s.diff t).union (t.diff s)

/-- What edition 16 does not assign yet. -/
def later : CharSet := ⟨Text.newCodePoints⟩

/-- The pairs of a code point and what it folds to. -/
def foldPairs : List (Nat × Nat) :=
  (Text.foldingRuns.toList.flatMap fun r =>
    (List.range ((r.last - r.first) / r.stride + 1)).map fun i =>
      (r.first + i * r.stride, r.image + i * r.stride)).filter fun (c, _) =>
    ¬ Text.inRanges later.ranges c

def ordered (pairs : List (Nat × Nat)) : Array (Nat × Nat) :=
  (pairs.mergeSort fun p q => p.1 ≤ q.1).toArray

def folds : Array (Nat × Nat) := ordered foldPairs

def unfolds : Array (Nat × Nat) := ordered (foldPairs.map fun (c, t) => (t, c))

/-- The second parts of ordered pairs, from place `i` on, whose first parts lie in `[a, b]`. -/
def partnersFrom (pairs : Array (Nat × Nat)) (a b i : Nat) : List Nat :=
  if h : i < pairs.size then
    let (c, t) := pairs[i]
    if b < c then []
    else if a ≤ c then t :: partnersFrom pairs a b (i + 1)
    else partnersFrom pairs a b (i + 1)
  else []
  termination_by pairs.size - i

/-- The second parts of ordered pairs whose first parts lie in a set. -/
def partners (pairs : Array (Nat × Nat)) (s : CharSet) : CharSet :=
  let found := s.ranges.toList.flatMap fun (a, b) =>
    partnersFrom pairs a b (Text.lastStartIn (·.1) pairs (a - 1) 32 0 pairs.size)
  ofRanges (found.map fun n => (n, n))

/-- Adds every character that differs from a member only by case. -/
def ignoringCase (s : CharSet) : CharSet :=
  let s := s.union (partners folds s)
  s.union (partners unfolds s)

/-- The characters whose general category is among those wanted. Edition 16 still has the voiced
pharyngeal fricative among the small letters. -/
def ofCategory (wanted : Text.Category → Bool) : CharSet :=
  let plain := Text.Category.runs.toList.filterMap fun (a, b, c) =>
    if wanted c then some (a, b) else none
  let every (first : Nat) (a b : Nat) := (List.range ((b - a) / 2 + 1)).filterMap fun i =>
    if a + first + 2 * i ≤ b then some (a + first + 2 * i, a + first + 2 * i) else none
  let turns := Text.Category.alternatingRuns.toList.flatMap fun (a, b) =>
    (if wanted .lu then every 0 a b else []) ++ (if wanted .ll then every 1 a b else [])
  let known := (ofRanges (plain ++ turns)).diff later
  if wanted .ll then known.union (single 0x295)
  else if wanted .lo then known.diff (single 0x295)
  else known

def unassigned : CharSet := (ofCategory fun _ => true).complement

def letters : CharSet := ofCategory fun c => c matches .lu | .ll | .lt | .lm | .lo

def alphabetic : CharSet :=
  (ofCategory fun c => c matches .lu | .ll | .lt | .lm | .lo | .nl).union
    (CharSet.diff ⟨Text.otherAlphabetic⟩ later)

def digits : CharSet := ofCategory (· == .nd)

def blanks : CharSet :=
  (ofCategory fun c => c matches .zs | .zl | .zp).union (ofRanges [(9, 13), (0x85, 0x85)])

def wordChars : CharSet :=
  alphabetic.union <|
    (ofCategory fun c => c matches .mn | .mc | .me | .nd | .pc).union (ofRanges [(0x200C, 0x200D)])

/-- ASCII sets by the name they have in brackets and colons. -/
def asciiNamed? : String → Option CharSet
  | "alnum" => some (ofRanges [(48, 57), (65, 90), (97, 122)])
  | "alpha" => some (ofRanges [(65, 90), (97, 122)])
  | "ascii" => some (ofRanges [(0, 127)])
  | "blank" => some (ofRanges [(9, 9), (32, 32)])
  | "cntrl" => some (ofRanges [(0, 31), (127, 127)])
  | "digit" => some (ofRanges [(48, 57)])
  | "graph" => some (ofRanges [(33, 126)])
  | "lower" => some (ofRanges [(97, 122)])
  | "print" => some (ofRanges [(32, 126)])
  | "punct" => some (ofRanges [(33, 47), (58, 64), (91, 96), (123, 126)])
  | "space" => some (ofRanges [(9, 13), (32, 32)])
  | "upper" => some (ofRanges [(65, 90)])
  | "word" => some (ofRanges [(48, 57), (65, 90), (95, 95), (97, 122)])
  | "xdigit" => some (ofRanges [(48, 57), (65, 70), (97, 102)])
  | _ => none

end CharSet

end JsonExplorer.Pattern
