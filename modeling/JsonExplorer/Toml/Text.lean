import JsonExplorer.Json.Scan

/-!
The texts of a TOML document: blanks, comments, line ends, keys and the four ways of writing a
string. Each reader takes something off the front and gives nothing if the front is ill-formed.
-/

namespace JsonExplorer.Toml

/-- The outcome of reading something off the front of a text: it and what is left. -/
abbrev Reading (α : Type) := Option (α × List Char)

def isBlank (c : Char) : Bool := c = ' ' || c = '\t'

def skipBlanks (cs : List Char) : List Char := cs.dropWhile isBlank

/-- May stand in comments and, its own marks aside, in strings. -/
def isPlain (c : Char) : Bool := c = '\t' || (32 ≤ c.toNat && c.toNat ≠ 127)

def lineEnd? : List Char → Option (List Char)
  | '\n' :: rest => some rest
  | '\r' :: '\n' :: rest => some rest
  | _ => none

/-- Drops a comment, if one follows, up to the end of its line. -/
def skipComment : List Char → List Char
  | '#' :: rest => rest.dropWhile isPlain
  | cs => cs

/-- What may follow an entry on its line, with the line end. -/
def restOfLine? (cs : List Char) : Option (List Char) :=
  match skipComment (skipBlanks cs) with
  | [] => some []
  | more => lineEnd? more

/-- Drops blanks, comments and line ends; `inComment` says that a comment is open. -/
def skipLinesFrom (inComment : Bool) : List Char → List Char
  | [] => []
  | '\n' :: rest => skipLinesFrom false rest
  | '\r' :: '\n' :: rest => skipLinesFrom false rest
  | c :: rest =>
    if inComment then if isPlain c then skipLinesFrom true rest else c :: rest
    else if isBlank c then skipLinesFrom false rest
    else if c = '#' then skipLinesFrom true rest
    else c :: rest

def skipLines (cs : List Char) : List Char := skipLinesFrom false cs

def hexDigits? : Nat → Nat → List Char → Reading Nat
  | 0, n, cs => some (n, cs)
  | _ + 1, _, [] => none
  | count + 1, n, c :: rest =>
    (Json.hexValue? c).bind fun d => hexDigits? count (16 * n + d) rest

def codePoint? (digits : Nat) (cs : List Char) : Reading Char :=
  (hexDigits? digits 0 cs).bind fun (n, rest) =>
    if n < 0xD800 ∨ (0xDFFF < n ∧ n < 0x110000) then some (Char.ofNat n, rest) else none

def escape? : List Char → Reading Char
  | 'b' :: rest => some (Char.ofNat 8, rest)
  | 't' :: rest => some ('\t', rest)
  | 'n' :: rest => some ('\n', rest)
  | 'f' :: rest => some (Char.ofNat 12, rest)
  | 'r' :: rest => some ('\r', rest)
  | '"' :: rest => some ('"', rest)
  | '\\' :: rest => some ('\\', rest)
  | 'u' :: rest => codePoint? 4 rest
  | 'U' :: rest => codePoint? 8 rest
  | _ => none

/-- Reads the inside of a string on one line, up to its closing quote. -/
def basicFrom : Nat → List Char → List Char → Reading String
  | 0, _, _ => none
  | fuel + 1, acc, cs =>
    match cs with
    | [] => none
    | '"' :: rest => some (String.ofList acc.reverse, rest)
    | '\\' :: rest => (escape? rest).bind fun (c, rest) => basicFrom fuel (c :: acc) rest
    | c :: rest => if isPlain c then basicFrom fuel (c :: acc) rest else none

/-- Reads the inside of a string without escapes, up to its closing apostrophe. -/
def literalFrom (acc : List Char) : List Char → Reading String
  | [] => none
  | c :: rest =>
    if c = '\'' then some (String.ofList acc.reverse, rest)
    else if isPlain c then literalFrom (c :: acc) rest
    else none

/-- Reads a run of up to `most` of the character `q`. -/
def runOf (q : Char) : Nat → List Char → Nat × List Char
  | most + 1, c :: rest =>
    if c = q then
      let (n, rest) := runOf q most rest
      (n + 1, rest)
    else (0, c :: rest)
  | _, cs => (0, cs)

def skipGap : List Char → List Char
  | [] => []
  | '\n' :: rest => skipGap rest
  | '\r' :: '\n' :: rest => skipGap rest
  | c :: rest => if isBlank c then skipGap rest else c :: rest

/-- Drops the blank rest of a line and all blanks and line ends that follow it. -/
def foldedLine? (cs : List Char) : Option (List Char) := (lineEnd? (skipBlanks cs)).map skipGap

/-- Reads the inside of a string over several lines, which ends with three of the quote `q`. Up to
two more may stand right before them. Escapes count if `escapes` says so. -/
def longFrom (q : Char) (escapes : Bool) : Nat → List Char → List Char → Reading String
  | 0, _, _ => none
  | fuel + 1, acc, cs =>
    match cs with
    | [] => none
    | c :: rest =>
      if c = q then
        let (n, more) := runOf q 5 cs
        let acc := List.replicate (if n < 3 then n else n - 3) q ++ acc
        if n < 3 then longFrom q escapes fuel acc more
        else some (String.ofList acc.reverse, more)
      else if escapes && c = '\\' then
        match foldedLine? rest with
        | some more => longFrom q escapes fuel acc more
        | none => (escape? rest).bind fun (e, more) => longFrom q escapes fuel (e :: acc) more
      else if isPlain c then longFrom q escapes fuel (c :: acc) rest
      else (lineEnd? cs).bind fun more => longFrom q escapes fuel ('\n' :: acc) more

/-- Reads the inside of a string over several lines. A line end right at its start is no part. -/
def long? (q : Char) (escapes : Bool) (cs : List Char) : Reading String :=
  let cs := (lineEnd? cs).getD cs
  longFrom q escapes (cs.length + 1) [] cs

/-- Reads a string on one line in either kind of quotes. -/
def shortString? : List Char → Reading String
  | '"' :: rest => basicFrom (rest.length + 1) [] rest
  | '\'' :: rest => literalFrom [] rest
  | _ => none

def string? : List Char → Reading String
  | '"' :: '"' :: '"' :: rest => long? '"' true rest
  | '\'' :: '\'' :: '\'' :: rest => long? '\'' false rest
  | cs => shortString? cs

/-- May stand in a key without quotes. -/
def isKeyChar (c : Char) : Bool := c.isAlphanum || c = '_' || c = '-'

def simpleKey? : List Char → Reading String
  | '"' :: rest => shortString? ('"' :: rest)
  | '\'' :: rest => shortString? ('\'' :: rest)
  | cs =>
    let name := cs.takeWhile isKeyChar
    if name.isEmpty then none else some (String.ofList name, cs.dropWhile isKeyChar)

/-- Reads a key with blanks and dots, as the list of its parts. -/
def keyFrom : Nat → List Char → Reading (List String)
  | 0, _ => none
  | fuel + 1, cs =>
    (simpleKey? (skipBlanks cs)).bind fun (k, rest) =>
      match skipBlanks rest with
      | '.' :: more => (keyFrom fuel more).map fun (ks, rest) => (k :: ks, rest)
      | more => some ([k], more)

/-- Keys of this many parts are refused, and so are values nested this deep. -/
def depthLimit : Nat := 80

def key? (cs : List Char) : Reading (List String) :=
  (keyFrom (cs.length + 1) cs).filter fun (ks, _) => ks.length < depthLimit

end JsonExplorer.Toml
