import JsonExplorer.Entries

/-!
The contents of a TOML document. A table knows how it came about, since that decides whether later
lines may still add to it.
-/

namespace JsonExplorer.Toml

/-- How a table came about: by a header of its own, only as a part of a longer header, by a dotted
key, or written out in braces. -/
inductive Origin where
  | header
  | implied
  | dotted
  | braces
  deriving DecidableEq, Repr

inductive Node where
  | string (s : String)
  | integer (i : Int)
  | boolean (b : Bool)
  | float
  | date
  | array (items : List Node)
  | table (origin : Origin) (fields : List (String × Node))
  | tables (members : List (List (String × Node)))

abbrev Table := Entries Node

namespace Table

/-- Writes a node under a dotted key. Nothing may stand there already, and the last table on the
way has to be one that dotted keys have made. -/
def place? (node : Node) : List String → Table → Option Table
  | [], _ => none
  | [k], t => if (t.get? k).isSome then none else some (t.put k node)
  | k :: l :: rest, t =>
    match t.get? k with
    | none => (place? node (l :: rest) []).map fun sub => t.put k (.table .dotted sub)
    | some (.table .dotted sub) =>
      (place? node (l :: rest) sub).map fun sub => t.put k (.table .dotted sub)
    | some (.table .implied sub) =>
      if rest.isEmpty then none
      else (place? node (l :: rest) sub).map fun sub => t.put k (.table .implied sub)
    | some (.tables members) =>
      if rest.isEmpty then none
      else match members.getLast? with
        | none => none
        | some last => (place? node (l :: rest) last).map fun last =>
            t.put k (.tables (members.dropLast ++ [last]))
    | some _ => none

/-- Changes the table at the end of a path, where a list of tables stands for its last member. A
table that is missing on the way comes about by implication. -/
def within? (change : Table → Option Table) : List String → Table → Option Table
  | [], t => change t
  | k :: rest, t =>
    match t.get? k with
    | none => (within? change rest []).map fun sub => t.put k (.table .implied sub)
    | some (.table .braces _) => none
    | some (.table origin sub) =>
      (within? change rest sub).map fun sub => t.put k (.table origin sub)
    | some (.tables members) =>
      match members.getLast? with
      | none => none
      | some last => (within? change rest last).map fun last =>
          t.put k (.tables (members.dropLast ++ [last]))
    | some _ => none

/-- Opens a table by its header. It must be new, or known only by implication. -/
def openHere? (k : String) (t : Table) : Option Table :=
  match t.get? k with
  | none => some (t.put k (.table .header []))
  | some (.table .implied sub) => some (t.put k (.table .header sub))
  | some _ => none

/-- Opens a further member of a list of tables by its header. -/
def appendHere? (k : String) (t : Table) : Option Table :=
  match t.get? k with
  | none => some (t.put k (.tables [[]]))
  | some (.tables members) => some (t.put k (.tables (members ++ [[]])))
  | some _ => none

/-- Applies the header of a table, or of a member of a list of tables, to the whole document. -/
def header? (member : Bool) (path : List String) (t : Table) : Option Table :=
  match path.getLast? with
  | none => none
  | some k => within? (if member then appendHere? k else openHere? k) path.dropLast t

end Table

end JsonExplorer.Toml
