import JsonExplorer.Pattern.Expression
import JsonExplorer.Pattern.Property

/-!
Reading regular expressions from text. There is no look-around and there are no back-references.
A text that is no expression, or nests its parts too deeply, is refused.
-/

namespace JsonExplorer.Pattern

structure Flags where
  ignoreCase : Bool := false
  multiLine : Bool := false
  dotAll : Bool := false
  ignoreSpace : Bool := false
  crlf : Bool := false
  unicode : Bool := true
  swapLazy : Bool := false

/-- An expression with the nesting depth of its text. -/
structure Part where
  expression : Expression
  depth : Nat := 0

/-- The groups opened so far: how many there are, and the names in use. -/
structure Groups where
  count : Nat := 0
  names : List (List Char) := []

/-- Drops blanks, and comments from a hash sign to the end of the line. -/
def dropComments (inComment : Bool) : List Char → List Char
  | [] => []
  | c :: rest =>
    if inComment then dropComments (c ≠ '\n') rest
    else if Text.isBlank c then dropComments false rest
    else if c = '#' then dropComments true rest
    else c :: rest

/-- What is read next: with the flag for it, blanks and comments do not count. -/
def Flags.skip (f : Flags) (cs : List Char) : List Char :=
  if f.ignoreSpace then dropComments false cs else cs

/-- The character to be looked at behind a hyphen. -/
def Flags.peek (f : Flags) (cs : List Char) : Option Char :=
  if f.ignoreSpace then
    match cs.dropWhile Text.isBlank with
    | '#' :: rest => (rest.dropWhile Text.isBlank).head?
    | rest => rest.head?
  else cs.head?

def isMeta (c : Char) : Bool := "\\.+*?()|[]\x7b\x7d^$#&-~".toList.contains c

/-- Whether a backslash may stand before a character that has no meaning of its own. -/
def isEscapable (c : Char) : Bool :=
  isMeta c || (c.toNat < 128 && !c.isAlphanum && c ≠ '<' && c ≠ '>')

def isHex (c : Char) : Bool :=
  c.isDigit || ('a' ≤ c && c ≤ 'f') || ('A' ≤ c && c ≤ 'F')

def hexValue (cs : List Char) : Nat :=
  cs.foldl (fun n c =>
    n * 16 + (if c.isDigit then c.toNat - 48 else c.toLower.toNat - 87)) 0

def scalar? (n : Nat) : Option Char :=
  if n < 0xD800 ∨ (0xDFFF < n ∧ n ≤ 0x10FFFF) then some (Char.ofNat n) else none

def readHexDigits (f : Flags) : Nat → List Char → Option (List Char × List Char)
  | 0, cs => some ([], cs)
  | _ + 1, [] => none
  | n + 1, c :: rest =>
    if isHex c then (readHexDigits f n (f.skip rest)).map fun (ds, r) => (c :: ds, r) else none

def readHexBraced (f : Flags) : Nat → List Char → Option (List Char × List Char)
  | 0, _ => none
  | fuel + 1, cs =>
    match f.skip cs with
    | [] => none
    | c :: rest =>
      if c = '\x7d' then some ([], f.skip rest)
      else if isHex c then (readHexBraced f fuel rest).map fun (ds, r) => (c :: ds, r)
      else none

/-- Reads a hexadecimal escape behind its letter, which says how many digits there are. -/
def readHex (f : Flags) (letter : Char) (cs : List Char) : Option (Char × List Char) :=
  match f.skip cs with
  | '\x7b' :: rest => do
    let (ds, rest) ← readHexBraced f (rest.length + 1) rest
    if ds.isEmpty then none
    let c ← scalar? (hexValue ds)
    pure (c, rest)
  | rest => do
    let n := if letter = 'x' then 2 else if letter = 'u' then 4 else 8
    let (ds, rest) ← readHexDigits f n rest
    let c ← scalar? (hexValue ds)
    if letter = 'x' && !f.unicode && 0x7F < c.toNat then none
    pure (c, rest)

def readBraced (f : Flags) : Nat → List Char → Option (List Char × List Char)
  | 0, _ => none
  | fuel + 1, cs =>
    match f.skip cs with
    | [] => none
    | c :: rest =>
      if c = '\x7d' then some ([], rest)
      else (readBraced f fuel rest).map fun (name, r) => (c :: name, r)

def splitAt? (mark : List Char) : List Char → Option (List Char × List Char)
  | [] => none
  | c :: rest =>
    if mark.isPrefixOf (c :: rest) then some ([], (c :: rest).drop mark.length)
    else (splitAt? mark rest).map fun (a, b) => (c :: a, b)

/-- The set of a property given by name, or by name and value, and whether the value is excluded. -/
def property? (name : List Char) : Option (CharSet × Bool) :=
  match splitAt? ['!', '='] name with
  | some (p, v) => (valueNamed? p v).map (·, true)
  | none =>
    match (splitAt? [':'] name).orElse fun _ => splitAt? ['='] name with
    | some (p, v) => (valueNamed? p v).map (·, false)
    | none => (named? name).map (·, false)

/-- Without the flag for Unicode only ASCII characters have a case. -/
def Flags.fold (f : Flags) (s : CharSet) : CharSet :=
  if !f.ignoreCase then s
  else if f.unicode then s.ignoringCase
  else s.ignoringCase.inter (CharSet.ofRanges [(0, 127)])

/-- Reads a property behind its letter; the capital letter excludes it. -/
def readProperty (f : Flags) (excluded : Bool) (cs : List Char) : Option (CharSet × List Char) := do
  if !f.unicode then none
  let (name, rest) ← match f.skip cs with
    | [] => none
    | '\x7b' :: rest => readBraced f (rest.length + 1) rest
    | '\\' :: _ => none
    | c :: rest => some ([c], f.skip rest)
  let (s, negated) ← property? name
  let s := f.fold s
  pure (if excluded != negated then s.complement else s, rest)

/-- What stands for one place or one character. -/
inductive Atom where
  | literal (c : Char)
  | set (s : CharSet)
  | look (l : Look)

/-- The set named by one letter behind a backslash; the capital letter excludes it. -/
def Flags.lettered? (f : Flags) (letter : Char) : Option CharSet :=
  let pick (s : CharSet) (ascii : String) := if f.unicode then some s else CharSet.asciiNamed? ascii
  let out (s : Option CharSet) := if f.unicode then s.map CharSet.complement else none
  match letter with
  | 'd' => pick CharSet.digits "digit"
  | 's' => pick CharSet.blanks "space"
  | 'w' => pick CharSet.wordChars "word"
  | 'D' => out (some CharSet.digits)
  | 'S' => out (some CharSet.blanks)
  | 'W' => out (some CharSet.wordChars)
  | _ => none

def readBoundaryName (f : Flags) : Nat → List Char → Option (List Char × List Char)
  | 0, _ => none
  | _, [] => none
  | fuel + 1, c :: rest =>
    if c = '\x7d' then some ([], rest)
    else if c.isAlpha || c = '-' then
      (readBoundaryName f fuel (f.skip rest)).map fun (name, r) => (c :: name, r)
    else none

/-- Reads what may follow the letter of a word boundary. A brace that does not begin a name is left
for a repetition. -/
def readBoundary (f : Flags) (cs : List Char) : Option (Look × List Char) :=
  match cs with
  | '\x7b' :: rest =>
    match f.skip rest with
    | [] => none
    | c :: more =>
      if c.isAlpha || c = '-' then do
        let (name, rest) ← readBoundaryName f (more.length + 2) (c :: more)
        match String.ofList name with
        | "start" => some (.wordStart, rest)
        | "end" => some (.wordEnd, rest)
        | "start-half" => some (.wordStartHalf, rest)
        | "end-half" => some (.wordEndHalf, rest)
        | _ => none
      else some (.boundary, cs)
  | _ => some (.boundary, cs)

def readEscape (f : Flags) (cs : List Char) : Option (Atom × List Char) :=
  match cs with
  | [] => none
  | c :: rest =>
    if c.isDigit then none
    else if c = 'x' ∨ c = 'u' ∨ c = 'U' then
      (readHex f c rest).map fun (l, r) => (.literal l, r)
    else if c = 'p' ∨ c = 'P' then
      (readProperty f (c = 'P') rest).map fun (s, r) => (.set s, r)
    else if "dswDSW".toList.contains c then
      (f.lettered? c).map fun s => (.set s, rest)
    else if isEscapable c then some (.literal c, rest)
    else match c with
      | 'a' => some (.literal (Char.ofNat 7), rest)
      | 'f' => some (.literal (Char.ofNat 12), rest)
      | 't' => some (.literal '\t', rest)
      | 'n' => some (.literal '\n', rest)
      | 'r' => some (.literal '\r', rest)
      | 'v' => some (.literal (Char.ofNat 11), rest)
      | 'A' => some (.look .textStart, rest)
      | 'z' => some (.look .textEnd, rest)
      | 'b' => (readBoundary f rest).map fun (l, r) => (.look l, r)
      | 'B' => some (.look .noBoundary, rest)
      | '<' => some (.look .wordStart, rest)
      | '>' => some (.look .wordEnd, rest)
      | _ => none

/-- The set of a literal; beyond ASCII it needs the flag for Unicode. -/
def Flags.literalSet? (f : Flags) (c : Char) : Option CharSet :=
  if !f.unicode && 0x7F < c.toNat then none else some (CharSet.single c.toNat)

/-- Reads an ASCII set by name, between `[:` and `:]`. The case flag applies before the set is
excluded. A text that names no set is given back as none, since it may be read otherwise. -/
def readAsciiSet (f : Flags) (cs : List Char) : Option (CharSet × Bool × List Char) :=
  match cs with
  | '[' :: ':' :: rest =>
    let (negated, rest) := match rest with
      | '^' :: more => (true, more)
      | more => (false, more)
    match rest.dropWhile (· ≠ ':') with
    | ':' :: ']' :: after => do
      let s ← CharSet.asciiNamed? (String.ofList (rest.takeWhile (· ≠ ':')))
      let s := f.fold s
      pure (if negated then s.complement else s, negated, after)
    | _ => none
  | _ => none

inductive SetOp where
  | inter
  | diff
  | symmDiff

/-- A set with the nesting depth of its text and the number of items put together in it. -/
structure SetPart where
  set : CharSet := .empty
  depth : Nat := 0
  items : Nat := 0

def SetPart.add (p : SetPart) (s : CharSet) (depth : Nat) : SetPart :=
  ⟨p.set.union s, max p.depth depth, p.items + 1⟩

/-- The depth of items side by side; one alone adds none. -/
def SetPart.nested (p : SetPart) : Nat := if p.items < 2 then p.depth else p.depth + 1

/-- Joins the items on the right of an operator with what stands on its left. -/
def Flags.combine (f : Flags) (left : Option (SetOp × CharSet × Nat)) (right : SetPart) :
    CharSet × Nat :=
  match left with
  | none => (right.set, right.nested)
  | some (op, l, depth) =>
    let l := f.fold l
    let r := f.fold right.set
    let s := match op with
      | .inter => l.inter r
      | .diff => l.diff r
      | .symmDiff => l.symmDiff r
    (s, max depth right.nested + 1)

/-- Reads one item of a set, without what may make it the start of a range. -/
def readSetAtom (f : Flags) (cs : List Char) : Option (Atom × List Char) :=
  match cs with
  | [] => none
  | '\\' :: rest => readEscape f rest
  | c :: rest => some (.literal c, rest)

def readSetItem (f : Flags) (cs : List Char) : Option (CharSet × List Char) := do
  let (first, rest) ← readSetAtom f cs
  match f.skip rest with
  | [] => none
  | '-' :: more =>
    if f.peek more = some ']' ∨ f.peek more = some '-' then
      pure (← alone first, '-' :: more)
    else
      let (second, rest) ← readSetAtom f (f.skip more)
      match first, second with
      | .literal a, .literal b =>
        if b < a then none
        let _ ← f.literalSet? a
        let _ ← f.literalSet? b
        pure (CharSet.ofRanges [(a.toNat, b.toNat)], rest)
      | _, _ => none
  | rest => pure (← alone first, rest)
where
  alone : Atom → Option CharSet
    | .literal c => f.literalSet? c
    | .set s => some s
    | .look _ => none

/-- Reads hyphens at the start of a set, which stand for themselves. -/
def readHyphens (f : Flags) : Nat → SetPart → List Char → SetPart × List Char
  | fuel + 1, part, '-' :: rest =>
    readHyphens f fuel (part.add (CharSet.single 45) 0) (f.skip rest)
  | _, part, cs => (part, cs)

mutual

/-- Reads a set behind its opening bracket. A bracket that comes first stands for itself. -/
def readSet : Nat → Flags → List Char → Option ((CharSet × Nat) × List Char)
  | 0, _, _ => none
  | fuel + 1, f, cs =>
    let (negated, cs) := match f.skip cs with
      | '^' :: rest => (true, f.skip rest)
      | rest => (false, rest)
    let (part, cs) := readHyphens f (fuel + 1) {} cs
    let (part, cs) := match part.items, f.skip cs with
      | 0, ']' :: rest => (part.add (CharSet.single 93) 0, f.skip rest)
      | _, rest => (part, rest)
    readSetItems fuel f negated none part cs

def readSetItems : Nat → Flags → Bool → Option (SetOp × CharSet × Nat) → SetPart → List Char →
    Option ((CharSet × Nat) × List Char)
  | 0, _, _, _, _, _ => none
  | fuel + 1, f, negated, left, part, cs =>
    let operator (op : SetOp) (rest : List Char) :=
      let (s, depth) := f.combine left part
      readSetItems fuel f negated (some (op, s, depth)) {} rest
    match f.skip cs with
    | [] => none
    | ']' :: rest =>
      let (s, depth) := f.combine left part
      let s := f.fold s
      if negated && !f.unicode then none
      else some ((if negated then s.complement else s, depth + 1), rest)
    | '[' :: rest =>
      match readAsciiSet f ('[' :: rest) with
      | some (s, excluded, rest) =>
        if excluded && !f.unicode then none
        else readSetItems fuel f negated left (part.add s 0) rest
      | none => do
        let ((s, depth), rest) ← readSet fuel f rest
        readSetItems fuel f negated left (part.add s depth) rest
    | '&' :: '&' :: rest => operator .inter rest
    | '-' :: '-' :: rest => operator .diff rest
    | '~' :: '~' :: rest => operator .symmDiff rest
    | rest => do
      let (s, rest) ← readSetItem f rest
      readSetItems fuel f negated left (part.add s 0) rest

end

def readDigits (f : Flags) : Nat → List Char → List Char × List Char
  | fuel + 1, c :: rest =>
    if c.isDigit then
      let (ds, rest) := readDigits f fuel (f.skip rest)
      (c :: ds, rest)
    else ([], c :: rest)
  | _, cs => ([], cs)

def readCount (f : Flags) (cs : List Char) : Option (Option Nat × List Char) :=
  let cs := cs.dropWhile Text.isBlank
  let (ds, rest) := readDigits f cs.length cs
  let rest := f.skip (rest.dropWhile Text.isBlank)
  if ds.isEmpty then some (none, rest)
  else
    let n := ds.foldl (fun n c => n * 10 + (c.toNat - 48)) 0
    if n < UInt32.size then some (some n, rest) else none

def readLazy : List Char → Bool × List Char
  | '?' :: rest => (true, rest)
  | rest => (false, rest)

/-- How often a part is repeated, and whether seldom is better than often. -/
structure Counts where
  least : Nat
  most : Option Nat
  lazily : Bool

/-- Reads a counted repetition behind its opening brace. The least count must be given and must not
exceed the most. -/
def readCounts (f : Flags) (cs : List Char) : Option (Counts × List Char) := do
  let cs := f.skip cs
  let (least, rest) ← readCount f cs
  let ((least, most), rest) ← match rest with
    | ',' :: rest =>
      match f.skip rest with
      | [] => none
      | '\x7d' :: more => do
        let n ← least
        pure ((n, none), '\x7d' :: more)
      | more => do
        let n ← least
        let (most, rest) ← readCount f more
        let m ← most
        pure ((n, some m), rest)
    | rest => do
      let n ← least
      pure ((n, some n), rest)
  match rest with
  | '\x7d' :: rest =>
    if most.all (least ≤ ·) then
      let (lazily, rest) := readLazy (f.skip rest)
      pure (⟨least, most, lazily⟩, rest)
    else none
  | _ => none

/-- Reads flags up to a colon or a closing parenthesis: those in force behind them, how many items
there were, and the rest with the closing character. -/
def readFlags (f : Flags) (seen : List Char) (negated : Bool) :
    List Char → Option ((Flags × Nat) × List Char)
  | [] => none
  | c :: rest =>
    if c = ':' ∨ c = ')' then
      if seen.head? = some '-' then none else some ((f, seen.length), c :: rest)
    else if seen.contains c then none
    else
      let on := !negated
      match c with
      | '-' => readFlags f (c :: seen) true rest
      | 'i' => readFlags { f with ignoreCase := on } (c :: seen) negated rest
      | 'm' => readFlags { f with multiLine := on } (c :: seen) negated rest
      | 's' => readFlags { f with dotAll := on } (c :: seen) negated rest
      | 'x' => readFlags { f with ignoreSpace := on } (c :: seen) negated rest
      | 'R' => readFlags { f with crlf := on } (c :: seen) negated rest
      | 'u' => readFlags { f with unicode := on } (c :: seen) negated rest
      | 'U' => readFlags { f with swapLazy := on } (c :: seen) negated rest
      | _ => none

def readGroupName (first : Bool) : List Char → Option (List Char × List Char)
  | [] => none
  | c :: rest =>
    if c = '>' then some ([], rest)
    else if c = '_' || Text.isAlphabetic c ||
        (!first && (Text.isNumeric c || c = '.' || c = '[' || c = ']')) then
      (readGroupName false rest).map fun (name, r) => (c :: name, r)
    else none

inductive Opening where
  | setFlags (f : Flags)
  | group (f : Flags) (marked : Bool) (name : Option (List Char))

def readOpening (f : Flags) (cs : List Char) : Option (Opening × List Char) :=
  match f.skip cs with
  | '?' :: '=' :: _ | '?' :: '!' :: _ | '?' :: '<' :: '=' :: _ | '?' :: '<' :: '!' :: _ => none
  | '?' :: 'P' :: '<' :: rest | '?' :: '<' :: rest => do
    let (name, rest) ← readGroupName true rest
    if name.isEmpty then none
    pure (.group f true (some name), rest)
  | '?' :: rest => do
    let ((g, n), rest) ← readFlags f [] false rest
    match rest with
    | ')' :: rest => if n = 0 then none else pure (.setFlags g, rest)
    | ':' :: rest => pure (.group g false none, rest)
    | _ => none
  | rest => some (.group f true none, rest)

def Flags.literal (f : Flags) (c : Char) : Expression :=
  if f.unicode || c.toNat ≤ 0x7F then .ofSet (f.fold (CharSet.single c.toNat)) else .literal [c]

def Flags.expression (f : Flags) : Atom → Expression
  | .literal c => f.literal c
  | .set s => .ofSet s
  | .look l => .look ⟨l, !f.unicode && l.isOfWords⟩

/-- The expression of a dot: every character but a line end, unless the flag for it is on. -/
def Flags.dot? (f : Flags) : Option Expression :=
  if !f.unicode then none
  else if f.dotAll then some (.ofSet (CharSet.ofRanges [(0, CharSet.last)]))
  else if f.crlf then some (.ofSet (CharSet.ofRanges [(10, 10), (13, 13)]).complement)
  else some (.ofSet (CharSet.single 10).complement)

def Flags.lineStart (f : Flags) : Look :=
  if !f.multiLine then .textStart else if f.crlf then .crlfStart else .lineStart

def Flags.lineEnd (f : Flags) : Look :=
  if !f.multiLine then .textEnd else if f.crlf then .crlfEnd else .lineEnd

/-- One part after another. `none` stands for flags, which match nothing by themselves. -/
def sequence (parts : List (Option Part)) : Part :=
  let depth := parts.foldl (fun d p => max d ((p.map (·.depth)).getD 0)) 0
  ⟨.join ((parts.filterMap id).map (·.expression)), if parts.length < 2 then depth else depth + 1⟩

def choice (branches : List Part) : Part :=
  let depth := branches.foldl (fun d p => max d p.depth) 0
  ⟨.either (branches.map (·.expression)), if branches.length < 2 then depth else depth + 1⟩

/-- Puts a repetition on the part before it, if that can be repeated. -/
def repeatLast (f : Flags) (parts : List (Option Part)) (n : Counts) :
    Option (List (Option Part)) :=
  match parts with
  | some p :: rest =>
    let lazily := n.lazily != f.swapLazy
    some (some ⟨p.expression.times n.least n.most lazily, p.depth + 1⟩ :: rest)
  | _ => none

/-- Reads up to the end of a group or of the text. `branches` and `parts` hold what has been read,
last first. -/
def readParts : Nat → Flags → Groups → List Part → List (Option Part) → List Char →
    Option ((Part × Groups) × List Char)
  | 0, _, _, _, _, _ => none
  | fuel + 1, f, groups, branches, parts, cs =>
    let finish (rest : List Char) : Option ((Part × Groups) × List Char) :=
      some ((choice (sequence parts.reverse :: branches).reverse, groups), rest)
    let go (p : Expression) (depth : Nat) (rest : List Char) :=
      readParts fuel f groups branches (some ⟨p, depth⟩ :: parts) rest
    let again (least : Nat) (most : Option Nat) (rest : List Char) := do
      let (lazily, rest) := readLazy rest
      let parts ← repeatLast f parts ⟨least, most, lazily⟩
      readParts fuel f groups branches parts rest
    match f.skip cs with
    | [] => finish []
    | ')' :: rest => finish (')' :: rest)
    | '|' :: rest => readParts fuel f groups (sequence parts.reverse :: branches) [] rest
    | '(' :: rest => do
      let (opening, rest) ← readOpening f rest
      match opening with
      | .setFlags g => readParts fuel g groups branches (none :: parts) rest
      | .group g marked name =>
        let number := groups.count + 1
        let groups ← match name with
          | some n => if groups.names.contains n then none else some ⟨number, n :: groups.names⟩
          | none => some (if marked then { groups with count := number } else groups)
        let ((inner, groups), rest) ← readParts fuel g groups [] [] rest
        let p := if marked then .group inner.expression number else inner.expression
        match rest with
        | ')' :: rest =>
          readParts fuel f groups branches (some ⟨p, inner.depth + 1⟩ :: parts) rest
        | _ => none
    | '[' :: rest => do
      let ((s, depth), rest) ← readSet (2 * rest.length + 2) f rest
      go (.ofSet s) depth rest
    | '?' :: rest => again 0 (some 1) rest
    | '*' :: rest => again 0 none rest
    | '+' :: rest => again 1 none rest
    | '\x7b' :: rest => do
      let (n, rest) ← readCounts f rest
      let parts ← repeatLast f parts n
      readParts fuel f groups branches parts rest
    | '.' :: rest => do go (← f.dot?) 0 rest
    | '^' :: rest => go (.look ⟨f.lineStart, false⟩) 0 rest
    | '$' :: rest => go (.look ⟨f.lineEnd, false⟩) 0 rest
    | '\\' :: rest => do
      let (atom, rest) ← readEscape f rest
      go (f.expression atom) 0 rest
    | c :: rest => go (f.literal c) 0 rest

def depthLimit : Nat := 250

def read? (f : Flags) (cs : List Char) : Option Expression := do
  let ((part, _), rest) ← readParts (2 * cs.length + 2) f {} [] [] cs
  if rest.isEmpty && part.depth ≤ depthLimit then some part.expression else none

end JsonExplorer.Pattern
