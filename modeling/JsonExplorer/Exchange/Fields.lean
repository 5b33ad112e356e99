import JsonExplorer.Exchange
import JsonExplorer.Json.Cause
import JsonExplorer.Json.Encode
import JsonExplorer.Text.Category

/-!
Requests and responses from decoded values. Fields that nobody asked for are passed over.
-/

namespace JsonExplorer

open Json (Cause)

/-- A value as messages about a wrong type call it. -/
def Value.described : Value → String
  | .null => "null"
  | .boolean b => "boolean `" ++ (if b then "true" else "false") ++ "`"
  | .number (.integer i) => "integer `" ++ toString i ++ "`"
  | .number (.float x) => "floating point `" ++ Decimal.floatText x ++ "`"
  | .string s => "string " ++ Text.visible s
  | .array _ => "sequence"
  | .object _ => "map"

def wrongType (v : Value) (expected : String) : Cause := .wrongType v.described expected

def natOf (expected : String) : Value → Except Cause Nat
  | .number (.integer i) =>
    if 0 ≤ i then .ok i.toNat
    else .error (.wrongValue (Value.number (.integer i)).described expected)
  | v => .error (wrongType v expected)

def textOf : Value → Except Cause String
  | .string s => .ok s
  | v => .error (wrongType v "a string")

def boolOf : Value → Except Cause Bool
  | .boolean b => .ok b
  | v => .error (wrongType v "a boolean")

def textsOf : Value → Except Cause (List String)
  | .array items => items.mapM textOf
  | v => .error (wrongType v "a sequence")

def modeOfWord (word : String) : Except Cause MatchMode :=
  match MatchMode.ofWord? word with
  | some m => .ok m
  | none => .error (.unknownVariant word "one of `substring`, `wholeWord`, `regex`")

/-- A match mode: its word, or an object that holds nothing under its word. -/
def modeOf : Value → Except Cause MatchMode
  | .string word => modeOfWord word
  | .object [(word, content)] => do
    let m ← modeOfWord word
    match content with
    | .null | .object [] => .ok m
    | v => .error (wrongType v "unit")
  | .object fields => .error (.wrongValue (Value.object fields).described "map with a single key")
  | v => .error (wrongType v "string or map")

structure QueryParts where
  term : Option String := none
  caseSensitive : Option Bool := none
  mode : Option MatchMode := none

/-- Takes in the fields of a query, in order; none of them may come twice. -/
def QueryParts.read (parts : QueryParts) : List (String × Value) → Except Cause QueryParts
  | [] => .ok parts
  | (k, v) :: rest => do
    if k = "term" then
      if parts.term.isSome then throw (.duplicateField k)
      let t ← textOf v
      QueryParts.read { parts with term := some t } rest
    else if k = "caseSensitive" then
      if parts.caseSensitive.isSome then throw (.duplicateField k)
      let b ← boolOf v
      QueryParts.read { parts with caseSensitive := some b } rest
    else if k = "mode" then
      if parts.mode.isSome then throw (.duplicateField k)
      let m ← modeOf v
      QueryParts.read { parts with mode := some m } rest
    else QueryParts.read parts rest

/-- The query in some fields. Only the term must be given. -/
def Query.ofFields (fields : List (String × Value)) : Except Cause Query := do
  let parts ← QueryParts.read {} fields
  match parts.term with
  | none => throw (.missingField "term")
  | some term => pure ⟨term, parts.caseSensitive.getD false, parts.mode.getD .substring⟩

/-- What has been found of a request: its number, its document, and all other fields in order. -/
structure RequestParts where
  sequenceId : Option Nat := none
  document : Option Value := none
  others : List (String × Value) := []

def RequestParts.finish (parts : RequestParts) : Except Cause SearchRequest :=
  match parts.sequenceId, parts.document with
  | none, _ => throw (.missingField "sequenceId")
  | some _, none => throw (.missingField "value")
  | some id, some document => do
    let query ← Query.ofFields parts.others
    pure ⟨id, document, query⟩

def RequestParts.read (parts : RequestParts) : List (String × Value) → Except Cause RequestParts
  | [] => .ok parts
  | (k, v) :: rest => do
    if k = "sequenceId" then
      if parts.sequenceId.isSome then throw (.duplicateField k)
      let n ← natOf "u64" v
      RequestParts.read { parts with sequenceId := some n } rest
    else if k = "value" then
      if parts.document.isSome then throw (.duplicateField k)
      RequestParts.read { parts with document := some v } rest
    else RequestParts.read { parts with others := parts.others ++ [(k, v)] } rest

def SearchRequest.ofValue : Value → Except Cause SearchRequest
  | .object fields => do
    let parts ← RequestParts.read {} fields
    parts.finish
  | v => .error (wrongType v "struct SearchRequest")

structure ResponseParts where
  sequenceId : Option Nat := none
  paths : Option (List String) := none
  count : Option Nat := none
  expand : Option (List String) := none

def ResponseParts.finish (parts : ResponseParts) : Except Cause SearchResponse :=
  match parts.sequenceId, parts.paths, parts.count, parts.expand with
  | none, _, _, _ => throw (.missingField "sequenceId")
  | _, none, _, _ => throw (.missingField "paths")
  | _, _, none, _ => throw (.missingField "count")
  | _, _, _, none => throw (.missingField "autoExpandedPaths")
  | some id, some paths, some count, some expand => pure ⟨id, paths, count, expand⟩

def ResponseParts.read (parts : ResponseParts) : List (String × Value) → Except Cause ResponseParts
  | [] => .ok parts
  | (k, v) :: rest => do
    if k = "sequenceId" then
      if parts.sequenceId.isSome then throw (.duplicateField k)
      let n ← natOf "u64" v
      ResponseParts.read { parts with sequenceId := some n } rest
    else if k = "paths" then
      if parts.paths.isSome then throw (.duplicateField k)
      let ps ← textsOf v
      ResponseParts.read { parts with paths := some ps } rest
    else if k = "count" then
      if parts.count.isSome then throw (.duplicateField k)
      let n ← natOf "usize" v
      ResponseParts.read { parts with count := some n } rest
    else if k = "autoExpandedPaths" then
      if parts.expand.isSome then throw (.duplicateField k)
      let ps ← textsOf v
      ResponseParts.read { parts with expand := some ps } rest
    else ResponseParts.read parts rest

def responseItems : String := "struct SearchResponse with 4 elements"

/-- A response from a decoded value: an object, or a list of its four fields in order. -/
def SearchResponse.ofValue : Value → Except Cause SearchResponse
  | .object fields => do
    let parts ← ResponseParts.read {} fields
    parts.finish
  | .array items =>
    match items with
    | [] => throw (.wrongLength 0 responseItems)
    | id :: rest => do
      let id ← natOf "u64" id
      match rest with
      | [] => throw (.wrongLength 1 responseItems)
      | paths :: rest =>
        let paths ← textsOf paths
        match rest with
        | [] => throw (.wrongLength 2 responseItems)
        | count :: rest =>
          let count ← natOf "usize" count
          match rest with
          | [] => throw (.wrongLength 3 responseItems)
          | expand :: rest =>
            let expand ← textsOf expand
            if rest.isEmpty then pure ⟨id, paths, count, expand⟩
            else throw (.wrongLength (rest.length + 4) "fewer elements in array")
  | v => .error (wrongType v "struct SearchResponse")

end JsonExplorer
