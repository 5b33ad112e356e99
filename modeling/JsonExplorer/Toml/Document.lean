import JsonExplorer.Toml.Scalar

/-!
Reading a whole TOML document: values, lines and the tables they make. Nothing is said about what
is wrong with a text that is no document.
-/

namespace JsonExplorer.Toml

mutual

/-- Reads a value; fewer than `room` lists and tables in braces may be nested. The steps are bounded
by `fuel`, which the length of the text provides. -/
def value? : Nat → Nat → List Char → Reading Node
  | 0, _, _ => none
  | fuel + 1, room, cs =>
    match cs with
    | [] => none
    | c :: rest =>
      if c = '"' ∨ c = '\'' then (string? cs).map fun (s, rest) => (.string s, rest)
      else if c = '[' then
        if room ≤ 1 then none
        else (items? fuel (room - 1) [] (skipLines rest)).map fun (vs, rest) => (.array vs, rest)
      else if c = '\x7b' then
        if room ≤ 1 then none
        else match skipBlanks rest with
          | '\x7d' :: more => some (.table .braces [], more)
          | more =>
            (fields? fuel (room - 1) [] more).map fun (t, rest) => (.table .braces t, rest)
      else if c = 't' ∨ c = 'f' then boolean? cs
      else numberOrDate? cs

/-- Reads the items of a list up to its end, from the start of one of them or from the end; `acc`
holds those read so far, last one first. -/
def items? : Nat → Nat → List Node → List Char → Reading (List Node)
  | 0, _, _, _ => none
  | fuel + 1, room, acc, cs =>
    match cs with
    | ']' :: rest => some (acc.reverse, rest)
    | _ =>
      (value? fuel room cs).bind fun (v, rest) =>
        match skipLines rest with
        | ',' :: more => items? fuel room (v :: acc) (skipLines more)
        | ']' :: more => some ((v :: acc).reverse, more)
        | _ => none

def fields? : Nat → Nat → Table → List Char → Reading Table
  | 0, _, _, _ => none
  | fuel + 1, room, t, cs =>
    (key? cs).bind fun (path, rest) =>
      match rest with
      | '=' :: rest =>
        (value? fuel room (skipBlanks rest)).bind fun (v, rest) =>
          (t.place? v path).bind fun t =>
            match skipBlanks rest with
            | ',' :: more => fields? fuel room t more
            | '\x7d' :: more => some (t, more)
            | _ => none
      | _ => none

end

/-- A document as far as it has been read, and the path of the table that is open. -/
structure Draft where
  root : Table := []
  current : List String := []

def statement? (draft : Draft) (cs : List Char) : Reading Draft :=
  match cs with
  | '[' :: '[' :: rest =>
    (key? rest).bind fun (path, rest) =>
      match rest with
      | ']' :: ']' :: rest => opened true path rest
      | _ => none
  | '[' :: rest =>
    (key? rest).bind fun (path, rest) =>
      match rest with
      | ']' :: rest => opened false path rest
      | _ => none
  | _ =>
    (key? cs).bind fun (path, rest) =>
      match rest with
      | '=' :: rest =>
        (value? (2 * rest.length + 2) depthLimit (skipBlanks rest)).bind fun (v, rest) =>
          (draft.root.within? (fun t => t.place? v path) draft.current).bind fun root =>
            (restOfLine? rest).map fun rest => ({ draft with root := root }, rest)
      | _ => none
where
  opened (member : Bool) (path : List String) (rest : List Char) : Reading Draft :=
    (draft.root.header? member path).bind fun root =>
      (restOfLine? rest).map fun rest => (⟨root, path⟩, rest)

/-- Reads all entries. Each takes at least one character, so the length of the text bounds them. -/
def statements? : Nat → Draft → List Char → Option Table
  | 0, _, _ => none
  | fuel + 1, draft, cs =>
    match skipLines cs with
    | [] => some draft.root
    | more => (statement? draft more).bind fun (draft, rest) => statements? fuel draft rest

/-- Reads a document. A mark of the byte order may come first. -/
def parse? (text : String) : Option Table :=
  let cs := match text.toList with
    | c :: rest => if c.toNat = 0xFEFF then rest else c :: rest
    | [] => []
  statements? (cs.length + 1) {} cs

end JsonExplorer.Toml
