import JsonExplorer.Exchange.Fields
import JsonExplorer.Json.Skip

/-!
Requests and responses straight from JSON text, so that every fault has a place in the text.
-/

namespace JsonExplorer

namespace Json

/-- The fault of a value of the wrong type. A number, word or string is read to its end first; a
list or an object is not entered. -/
def wrongAt (expected : String) (cs : List Char) : Fault :=
  match cs with
  | '[' :: _ => .after (.wrongType "sequence" expected) cs
  | '\x7b' :: _ => .after (.wrongType "map" expected) cs
  | _ =>
    match scanValue Entries.put (enoughFor cs) nestingLimit cs with
    | .ok (v, rest) => .after (wrongType v expected) rest
    | .error fault => fault

def scanNat (expected : String) (cs : List Char) : Scan (Nat × List Char) :=
  match skipSpace cs with
  | [] => .error (.on .endInValue [])
  | c :: rest =>
    if c = '-' ∨ c.isDigit then do
      let (n, rest) ← if c = '-' then scanNumber true rest else scanNumber false (c :: rest)
      match natOf expected (.number n) with
      | .ok i => .ok (i, rest)
      | .error cause => .error (.after cause rest)
    else .error (wrongAt expected (c :: rest))

def scanText (cs : List Char) : Scan (String × List Char) :=
  match skipSpace cs with
  | [] => .error (.on .endInValue [])
  | '"' :: rest => scanString rest
  | rest => .error (wrongAt "a string" rest)

/-- Reads strings up to the end of their list; `acc` holds those read so far, last one first. -/
def scanTextsFrom : Nat → List String → List Char → Scan (List String × List Char)
  | 0, _, cs => .error (.on .endInValue cs)
  | fuel + 1, acc, cs => do
    let (s, rest) ← scanText cs
    let (more, rest) ← scanListComma rest
    if more then scanTextsFrom fuel (s :: acc) rest else .ok ((s :: acc).reverse, rest)

def scanTexts (cs : List Char) : Scan (List String × List Char) :=
  match skipSpace cs with
  | [] => .error (.on .endInValue [])
  | '[' :: rest =>
    match skipSpace rest with
    | ']' :: more => .ok ([], more)
    | [] => .error (.on .endInList [])
    | more => scanTextsFrom (more.length + 1) [] more
  | rest => .error (wrongAt "a sequence" rest)

/-- The place of a fault found behind a key: what closes the object counts as read. -/
def behindKey (rest : List Char) : List Char :=
  match skipSpace rest with
  | '\x7d' :: more => more
  | more => more

/-- Reads the fields of an object one by one with `field`, which gets a key and what follows its
colon; `known` tells which keys must not come again. -/
def scanRecord {σ : Type} (known : σ → String → Bool)
    (field : σ → String → List Char → Scan (σ × List Char)) :
    Nat → σ → List Char → Scan (σ × List Char)
  | 0, _, cs => .error (.on .endInValue cs)
  | fuel + 1, s, cs => do
    let (k, rest) ← scanString cs
    if known s k then .error (.after (.duplicateField k) (behindKey rest))
    else
      let rest ← scanColon rest
      let (s, rest) ← field s k rest
      let (more, rest) ← scanObjectComma rest
      if more then scanRecord known field fuel s rest else .ok (s, rest)

def scanObject {σ : Type} (known : σ → String → Bool)
    (field : σ → String → List Char → Scan (σ × List Char)) (start : σ) (cs : List Char) :
    Scan (σ × List Char) :=
  match skipSpace cs with
  | '\x7d' :: rest => .ok (start, rest)
  | '"' :: rest => scanRecord known field (rest.length + 1) start rest
  | [] => .error (.on .endInObject [])
  | rest => .error (.on .keyNotString rest)

/-- Places the cause of an incomplete record behind it. -/
def placed {α : Type} (rest : List Char) : Except Cause α → Scan (α × List Char)
  | .ok a => .ok (a, rest)
  | .error cause => .error (.after cause rest)

/-- Reads a field of a request. What is not its number or its document is kept for the query. -/
def scanRequestField (parts : RequestParts) (k : String) (cs : List Char) :
    Scan (RequestParts × List Char) := do
  if k = "sequenceId" then
    let (n, rest) ← scanNat "u64" cs
    pure ({ parts with sequenceId := some n }, rest)
  else if k = "value" then
    let (v, rest) ← scanValue Entries.put (enoughFor cs) (nestingLimit - 1) cs
    pure ({ parts with document := some v }, rest)
  else
    let keep : AddField := fun fields k v => fields ++ [(k, v)]
    let (v, rest) ← scanValue keep (enoughFor cs) (nestingLimit - 1) cs
    pure ({ parts with others := parts.others ++ [(k, v)] }, rest)

def knownInRequest (parts : RequestParts) (k : String) : Bool :=
  k == "sequenceId" && parts.sequenceId.isSome || k == "value" && parts.document.isSome

def scanRequest (cs : List Char) : Scan (SearchRequest × List Char) :=
  match skipSpace cs with
  | [] => .error (.on .endInValue [])
  | '\x7b' :: rest => do
    let (parts, rest) ← scanObject knownInRequest scanRequestField {} rest
    placed rest parts.finish
  | rest => .error (wrongAt "struct SearchRequest" rest)

def scanResponseField (parts : ResponseParts) (k : String) (cs : List Char) :
    Scan (ResponseParts × List Char) := do
  if k = "sequenceId" then
    let (n, rest) ← scanNat "u64" cs
    pure ({ parts with sequenceId := some n }, rest)
  else if k = "paths" then
    let (ps, rest) ← scanTexts cs
    pure ({ parts with paths := some ps }, rest)
  else if k = "count" then
    let (n, rest) ← scanNat "usize" cs
    pure ({ parts with count := some n }, rest)
  else if k = "autoExpandedPaths" then
    let (ps, rest) ← scanTexts cs
    pure ({ parts with expand := some ps }, rest)
  else
    let rest ← skipOne cs
    pure (parts, rest)

def knownInResponse (parts : ResponseParts) (k : String) : Bool :=
  k == "sequenceId" && parts.sequenceId.isSome || k == "paths" && parts.paths.isSome ||
    k == "count" && parts.count.isSome || k == "autoExpandedPaths" && parts.expand.isSome

/-- Reads on in a list that must have a further item, the one after `n`. -/
def scanNext (n : Nat) (cs : List Char) : Scan (List Char) := do
  let (more, rest) ← scanListComma cs
  if more then pure rest else .error (.after (.wrongLength n responseItems) rest)

/-- Reads the end of a list that must have no further item. -/
def scanListEnd (cs : List Char) : Scan (List Char) :=
  match skipSpace cs with
  | ']' :: rest => .ok rest
  | ',' :: rest =>
    match skipSpace rest with
    | ']' :: more => .error (.on .trailingComma (']' :: more))
    | more => .error (.on .trailingCharacters more)
  | [] => .error (.on .endInList [])
  | rest => .error (.on .trailingCharacters rest)

/-- Reads a response given as a list, behind its opening bracket. -/
def scanResponseItems (cs : List Char) : Scan (SearchResponse × List Char) :=
  match skipSpace cs with
  | ']' :: rest => .error (.after (.wrongLength 0 responseItems) rest)
  | [] => .error (.on .endInList [])
  | rest => do
    let (id, rest) ← scanNat "u64" rest
    let rest ← scanNext 1 rest
    let (paths, rest) ← scanTexts rest
    let rest ← scanNext 2 rest
    let (count, rest) ← scanNat "usize" rest
    let rest ← scanNext 3 rest
    let (expand, rest) ← scanTexts rest
    let rest ← scanListEnd rest
    pure (⟨id, paths, count, expand⟩, rest)

def scanResponse (cs : List Char) : Scan (SearchResponse × List Char) :=
  match skipSpace cs with
  | [] => .error (.on .endInValue [])
  | '\x7b' :: rest => do
    let (parts, rest) ← scanObject knownInResponse scanResponseField {} rest
    placed rest parts.finish
  | '[' :: rest => scanResponseItems rest
  | rest => .error (wrongAt "struct SearchResponse" rest)

def readAll {α : Type} (scan : List Char → Scan (α × List Char)) (text : String) :
    Except DecodeError α :=
  let cs := text.toList
  let outcome : Scan α := do
    let (a, rest) ← scan cs
    scanEnd rest
    pure a
  match outcome with
  | .ok a => .ok a
  | .error fault => .error (.ofFault cs fault)

end Json

def SearchRequest.parse (text : String) : Except Json.DecodeError SearchRequest :=
  Json.readAll Json.scanRequest text

/-- A request from its text by way of a decoded value, where a key that comes again counts once. -/
def SearchRequest.parseValue (text : String) : Except Json.DecodeError SearchRequest := do
  let v ← Json.parse text
  match SearchRequest.ofValue v with
  | .ok r => .ok r
  | .error cause => .error (.ofCause cause)

def SearchResponse.parse (text : String) : Except Json.DecodeError SearchResponse :=
  Json.readAll Json.scanResponse text

end JsonExplorer
