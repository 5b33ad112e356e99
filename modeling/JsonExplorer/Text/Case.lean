import JsonExplorer.Text.CaseTable
import JsonExplorer.Text.Category

/-!
Case conversion of Unicode text. Lower-casing looks at the neighbours of a capital sigma, which
becomes the final form at the end of a word; upper-casing of one character may give several.
-/

namespace JsonExplorer.Text

/-- The code point a table of runs assigns to `n`, if it assigns one. -/
def imageIn (runs : Array CaseRun) (n : Nat) : Option Nat :=
  match lastStart? CaseRun.first runs n with
  | some r =>
    if r.first ≤ n && n ≤ r.last && (n - r.first) % r.stride == 0 then
      some (r.image + (n - r.first))
    else none
  | none => none

def lowerChar (c : Char) : List Char :=
  if c.toNat = 0x130 then ['i', Char.ofNat 0x307]
  else match imageIn lowercaseRuns c.toNat with
    | some n => [Char.ofNat n]
    | none => [c]

def upperChar (c : Char) : List Char :=
  match lastStart? (·.1) longUppercase c.toNat with
  | some (n, image) => if n = c.toNat then image.map Char.ofNat else single
  | none => single
where
  single : List Char :=
    match imageIn uppercaseRuns c.toNat with
    | some n => [Char.ofNat n]
    | none => [c]

/-- The first character that case rules do not look through is a cased one. -/
def meetsCased (cs : List Char) : Bool :=
  match cs.dropWhile isCaseIgnorable with
  | c :: _ => isCased c
  | [] => false

/-- Lower-cases the characters after `before`, which is given backwards. A capital sigma is final
when a cased letter comes before it and none after it. -/
def lowerFrom (before : List Char) : List Char → List Char
  | [] => []
  | c :: rest =>
    (if c.toNat = 0x3A3 then
      [if meetsCased before && !meetsCased rest then 'ς' else 'σ']
    else lowerChar c) ++ lowerFrom (c :: before) rest

def lowerChars (cs : List Char) : List Char := lowerFrom [] cs

def capitalizeChars : List Char → List Char
  | [] => []
  | c :: rest => upperChar c ++ rest

def capitalize (s : String) : String := String.ofList (capitalizeChars s.toList)

end JsonExplorer.Text
