import JsonExplorer.Pattern.CharSet

/-!
How sets of characters look byte by byte: the encodings of a set as sequences of byte ranges, each
of which stands for all encodings with one byte out of each range.
-/

namespace JsonExplorer.Pattern

/-- The first and the last of neighbouring bytes. -/
abbrev ByteRange := Nat × Nat

/-- Splits a range of code points until the encodings of each part differ from byte to byte
independently. A range is cut at the surrogates, where encodings grow longer and where a trailing
byte does not run through all its values. -/
def splitRange : Nat → Nat → Nat → List (Nat × Nat)
  | 0, a, b => [(a, b)]
  | fuel + 1, a, b =>
    let cutAt (cut : Nat) := splitRange fuel a cut ++ splitRange fuel (cut + 1) b
    let trailing (i : Nat) : Option (List (Nat × Nat)) :=
      let block := Nat.pow 2 (6 * i)
      if a / block = b / block then none
      else if a % block ≠ 0 then some (cutAt (a / block * block + block - 1))
      else if b % block ≠ block - 1 then some (cutAt (b / block * block - 1))
      else none
    if b < a then []
    else if a < 0xE000 ∧ 0xD7FF < b then
      splitRange fuel a 0xD7FF ++ splitRange fuel 0xE000 b
    else if 0xD800 ≤ a ∧ b ≤ 0xDFFF then []
    else if a ≤ 0x7F ∧ 0x7F < b then cutAt 0x7F
    else if a ≤ 0x7FF ∧ 0x7FF < b then cutAt 0x7FF
    else if a ≤ 0xFFFF ∧ 0xFFFF < b then cutAt 0xFFFF
    else if b ≤ 0x7F then [(a, b)]
    else ((trailing 1).orElse fun _ => (trailing 2).orElse fun _ => trailing 3).getD [(a, b)]

def utf8 (n : Nat) : List Nat :=
  if n < 0x80 then [n]
  else if n < 0x800 then [0xC0 + n / 64, 0x80 + n % 64]
  else if n < 0x10000 then [0xE0 + n / 4096, 0x80 + n / 64 % 64, 0x80 + n % 64]
  else [0xF0 + n / 262144, 0x80 + n / 4096 % 64, 0x80 + n / 64 % 64, 0x80 + n % 64]

def CharSet.encodings (s : CharSet) : List (List ByteRange) :=
  s.ranges.toList.flatMap fun (a, b) =>
    (splitRange 32 a b).map fun (a, b) => (utf8 a).zip (utf8 b)

def CharSet.isAscii (s : CharSet) : Bool := s.ranges.toList.all fun (_, b) => b ≤ 0x7F

def bytesOf (cs : List Char) : List Nat := cs.flatMap fun c => utf8 c.toNat

end JsonExplorer.Pattern
