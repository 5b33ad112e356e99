import JsonExplorer.Json.Cause

/-!
The pieces of a JSON text: blanks, the words `null`, `true` and `false`, and quoted strings. Each
scanner returns what it read together with the characters that are left.
-/

namespace JsonExplorer.Json

/-- The outcome of reading something off the front of a text. -/
abbrev Scan := Except Fault

def isSpace (c : Char) : Bool := c = ' ' || c = '\n' || c = '\t' || c = '\r'

def skipSpace (cs : List Char) : List Char := cs.dropWhile isSpace

def scanWord : List Char → List Char → Scan (List Char)
  | [], cs => .ok cs
  | _ :: _, [] => .error (.on .endInValue [])
  | e :: more, c :: rest =>
    if c = e then scanWord more rest else .error (.on .expectedWord (c :: rest))

def hexValue? (c : Char) : Option Nat :=
  if '0' ≤ c ∧ c ≤ '9' then some (c.toNat - 48)
  else if 'a' ≤ c ∧ c ≤ 'f' then some (c.toNat - 87)
  else if 'A' ≤ c ∧ c ≤ 'F' then some (c.toNat - 55)
  else none

def fourHex? (a b c d : Char) : Option Nat := do
  let a ← hexValue? a
  let b ← hexValue? b
  let c ← hexValue? c
  let d ← hexValue? d
  pure (a * 4096 + b * 256 + c * 16 + d)

/-- Reads four hexadecimal digits. Without four more bytes the string has ended too early. -/
def scanHex (cs : List Char) : Scan (Nat × List Char) :=
  match cs with
  | a :: b :: c :: d :: rest =>
    match fourHex? a b c d with
    | some n => .ok (n, rest)
    | none => .error ⟨.invalidEscape, byteCount cs - 4⟩
  | _ => if byteCount cs < 4 then .error ⟨.endInString, 0⟩
    else .error ⟨.invalidEscape, byteCount cs - 4⟩

/-- The character of a short escape, by the letter behind the backslash. -/
def shortEscape? (c : Char) : Option Char :=
  match c with
  | '"' => some '"'
  | '\\' => some '\\'
  | '/' => some '/'
  | 'b' => some (Char.ofNat 8)
  | 'f' => some (Char.ofNat 12)
  | 'n' => some '\n'
  | 'r' => some '\r'
  | 't' => some '\t'
  | _ => none

/-- Reads what follows the backslash and the letter of a hexadecimal escape. A high surrogate must
be followed by the escape of a low one; the pair is one character. -/
def scanUnicode (cs : List Char) : Scan (Char × List Char) := do
  let (n, rest) ← scanHex cs
  if 0xDC00 ≤ n ∧ n ≤ 0xDFFF then .error (.after .loneSurrogate rest)
  else if n < 0xD800 ∨ 0xDBFF < n then .ok (Char.ofNat n, rest)
  else match rest with
    | [] => .error (.on .endInString [])
    | '\\' :: [] => .error (.on .endInString [])
    | '\\' :: 'u' :: more => do
      let (low, rest) ← scanHex more
      if 0xDC00 ≤ low ∧ low ≤ 0xDFFF then
        .ok (Char.ofNat (0x10000 + (n - 0xD800) * 1024 + (low - 0xDC00)), rest)
      else .error (.after .loneSurrogate rest)
    | '\\' :: more => .error (.on .endInHexEscape more)
    | more => .error (.on .endInHexEscape more)

/-- Reads the inside of a string and the closing quote; `acc` holds the characters read so far,
last one first. Every step takes at least one character, so a `clock` longer than the text is
enough. -/
def scanStringFrom : List Char → List Char → List Char → Scan (String × List Char)
  | [], _, cs => .error (.on .endInString cs)
  | _ :: clock, acc, cs =>
    match cs with
    | [] => .error (.on .endInString [])
    | '"' :: rest => .ok (String.ofList acc.reverse, rest)
    | '\\' :: rest =>
      match rest with
      | [] => .error (.on .endInString [])
      | 'u' :: more => do
        let (c, rest) ← scanUnicode more
        scanStringFrom clock (c :: acc) rest
      | e :: more =>
        match shortEscape? e with
        | some c => scanStringFrom clock (c :: acc) more
        | none => .error (.on .invalidEscape rest)
    | c :: rest =>
      if c.toNat < 32 then .error (.on .controlCharacter cs)
      else scanStringFrom clock (c :: acc) rest

/-- Reads a string whose opening quote has been read. -/
def scanString (cs : List Char) : Scan (String × List Char) := scanStringFrom ('"' :: cs) [] cs

end JsonExplorer.Json
