import JsonExplorer.Json.Numeral
import JsonExplorer.Text.Category

/-!
Decoding a JSON text into a value. Blank text stands for `null`. A key that comes again keeps its
first place and takes the later content, and at most 127 containers may be open at once.
-/

namespace JsonExplorer.Json

def scanColon (cs : List Char) : Scan (List Char) :=
  match skipSpace cs with
  | ':' :: rest => .ok rest
  | [] => .error (.on .endInObject [])
  | rest => .error (.on .expectedColon rest)

/-- What comes behind an item of a list: the end, or the start of the next item. -/
def scanListComma (cs : List Char) : Scan (Bool × List Char) :=
  match skipSpace cs with
  | ']' :: rest => .ok (false, rest)
  | ',' :: rest =>
    match skipSpace rest with
    | ']' :: more => .error (.on .trailingComma (']' :: more))
    | [] => .error (.on .endInValue [])
    | more => .ok (true, more)
  | [] => .error (.on .endInList [])
  | rest => .error (.on .expectedCommaOrBracket rest)

/-- What comes behind a field of an object: the end, or the inside of the next key. -/
def scanObjectComma (cs : List Char) : Scan (Bool × List Char) :=
  match skipSpace cs with
  | '\x7d' :: rest => .ok (false, rest)
  | ',' :: rest =>
    match skipSpace rest with
    | '"' :: more => .ok (true, more)
    | '\x7d' :: more => .error (.on .trailingComma ('\x7d' :: more))
    | [] => .error (.on .endInValue [])
    | more => .error (.on .keyNotString more)
  | [] => .error (.on .endInObject [])
  | rest => .error (.on .expectedCommaOrBrace rest)

/-- What becomes of a field when it joins those read before it. -/
abbrev AddField := List (String × Value) → String → Value → List (String × Value)

mutual

/-- Reads one value; fewer than `room` containers may be opened inside each other. The steps are
bounded by `fuel`, which the length of the text provides. -/
def scanValue (add : AddField) : Nat → Nat → List Char → Scan (Value × List Char)
  | 0, _, cs => .error (.on .endInValue cs)
  | fuel + 1, room, cs =>
    match skipSpace cs with
    | [] => .error (.on .endInValue [])
    | c :: rest =>
      if c = 'n' then (scanWord ['u', 'l', 'l'] rest).map fun r => (.null, r)
      else if c = 't' then (scanWord ['r', 'u', 'e'] rest).map fun r => (.boolean true, r)
      else if c = 'f' then (scanWord ['a', 'l', 's', 'e'] rest).map fun r => (.boolean false, r)
      else if c = '"' then (scanString rest).map fun (s, r) => (.string s, r)
      else if c = '-' then (scanNumber true rest).map fun (n, r) => (.number n, r)
      else if c.isDigit then (scanNumber false (c :: rest)).map fun (n, r) => (.number n, r)
      else if c = '[' then
        if room ≤ 1 then .error (.on .tooDeep (c :: rest))
        else match skipSpace rest with
          | ']' :: more => .ok (.array [], more)
          | [] => .error (.on .endInList [])
          | more => (scanItems add fuel (room - 1) [] more).map fun (vs, r) => (.array vs, r)
      else if c = '\x7b' then
        if room ≤ 1 then .error (.on .tooDeep (c :: rest))
        else match skipSpace rest with
          | '\x7d' :: more => .ok (.object [], more)
          | '"' :: more =>
            (scanFields add fuel (room - 1) [] more).map fun (fs, r) => (.object fs, r)
          | [] => .error (.on .endInObject [])
          | more => .error (.on .keyNotString more)
      else .error (.on .expectedValue (c :: rest))

/-- Reads the items of a list up to its end; `acc` holds those read so far, last one first. -/
def scanItems (add : AddField) :
    Nat → Nat → List Value → List Char → Scan (List Value × List Char)
  | 0, _, _, cs => .error (.on .endInValue cs)
  | fuel + 1, room, acc, cs => do
    let (v, rest) ← scanValue add fuel room cs
    let (more, rest) ← scanListComma rest
    if more then scanItems add fuel room (v :: acc) rest else .ok ((v :: acc).reverse, rest)

/-- Reads the fields of an object from the inside of a key up to its end. -/
def scanFields (add : AddField) :
    Nat → Nat → List (String × Value) → List Char → Scan (List (String × Value) × List Char)
  | 0, _, _, cs => .error (.on .endInValue cs)
  | fuel + 1, room, acc, cs => do
    let (k, rest) ← scanString cs
    let rest ← scanColon rest
    let (v, rest) ← scanValue add fuel room rest
    let (more, rest) ← scanObjectComma rest
    let acc := add acc k v
    if more then scanFields add fuel room acc rest else .ok (acc, rest)

end

def scanEnd (cs : List Char) : Scan Unit :=
  match skipSpace cs with
  | [] => .ok ()
  | rest => .error (.on .trailingCharacters rest)

/-- The number of containers that may be open, plus one. -/
def nestingLimit : Nat := 128

/-- Steps enough to read any value off the front of a text. -/
def enoughFor (cs : List Char) : Nat := 2 * cs.length + 2

def parseChars (cs : List Char) : Scan Value := do
  let (v, rest) ← scanValue Entries.put (enoughFor cs) nestingLimit cs
  scanEnd rest
  pure v

def parse (text : String) : Except DecodeError Value :=
  let cs := text.toList
  match parseChars cs with
  | .ok v => .ok v
  | .error fault => .error (.ofFault cs fault)

end JsonExplorer.Json

namespace JsonExplorer

/-- Decodes the text of a document. Blank text is an empty document and reads as `null`. -/
def decode (text : String) : Except Json.DecodeError Value :=
  if Text.isBlankText text then .ok .null else Json.parse text

end JsonExplorer
