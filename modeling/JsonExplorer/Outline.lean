import Std.Data.HashSet
import JsonExplorer.Json.Encode
import JsonExplorer.Path

/-!
A document as an outline: rows for the nodes whose ancestors are all open, pages of the direct
children of a node, and a short preview of each value.
-/

namespace JsonExplorer.Outline

/-- At most `limit` characters, with an ellipsis for the rest. -/
def truncate (s : String) (limit : Nat) : String :=
  let cs := s.toList
  if limit < cs.length then String.ofList (cs.take limit ++ ['…']) else s

/-- A value in one line; long strings are cut if there is a limit. -/
def preview (limit : Option Nat) : Value → String
  | .object [] => "\x7b\x7d 0 keys"
  | .object fields => "\x7b…\x7d " ++ toString fields.length ++ " keys"
  | .array [] => "[] 0 items"
  | .array items => "[…] " ++ toString items.length ++ " items"
  | .string s => match limit with
    | some n => truncate s n
    | none => s
  | .number n => n.text
  | .boolean b => if b then "true" else "false"
  | .null => "null"

structure Child where
  path : String
  key : String
  kind : Kind
  childCount : Nat
  preview : String
  deriving DecidableEq, Repr

def Child.hasChildren (c : Child) : Bool := 0 < c.childCount

def Step.label : Step → String
  | .key k => k
  | .index i => toString i

def child (limit : Option Nat) (parent : String) (entry : Step × Value) : Child :=
  { path := Path.child parent entry.1
    key := Step.label entry.1
    kind := entry.2.kind
    childCount := entry.2.childCount
    preview := preview limit entry.2 }

/-- A page of the direct children of the node at `path`, or nothing if there is no such node. -/
def page? (document : Value) (path : String) (offset count : Nat) (limit : Option Nat) :
    Option (List Child) :=
  (Path.resolve document path).map fun node =>
    ((node.children.drop offset).take count).map (child limit path)

def nodeText? (document : Value) (path : String) (pretty : Bool) : Option String :=
  (Path.resolve document path).map fun node => if pretty then node.pretty else node.compact

structure Row where
  name : String
  path : String
  depth : Nat
  isLeaf : Bool
  kind : Kind
  preview : String
  deriving DecidableEq, Repr

def row (limit : Option Nat) (path : String) (depth : Nat) (v : Value) : Row :=
  { name := Path.name path
    path := path
    depth := depth
    isLeaf := !v.isContainer
    kind := v.kind
    preview := preview limit v }

mutual

/-- The rows of the subtree at `path`: its own row, and those of its children if it is open. -/
def rowsAt (isOpen : String → Bool) (limit : Option Nat) (path : String) (depth : Nat) :
    Value → List Row
  | .array items =>
    row limit path depth (.array items) ::
      if isOpen path then itemRows isOpen limit path depth 0 items else []
  | .object fields =>
    row limit path depth (.object fields) ::
      if isOpen path then fieldRows isOpen limit path depth fields else []
  | v => [row limit path depth v]

def itemRows (isOpen : String → Bool) (limit : Option Nat) (path : String) (depth i : Nat) :
    List Value → List Row
  | [] => []
  | v :: rest =>
    rowsAt isOpen limit (Path.childIndex path i) (depth + 1) v
      ++ itemRows isOpen limit path depth (i + 1) rest

def fieldRows (isOpen : String → Bool) (limit : Option Nat) (path : String) (depth : Nat) :
    List (String × Value) → List Row
  | [] => []
  | (k, v) :: rest =>
    rowsAt isOpen limit (Path.childKey path k) (depth + 1) v
      ++ fieldRows isOpen limit path depth rest

end

def rows (document : Value) (expanded : List String) (limit : Option Nat) : List Row :=
  let opened := Std.HashSet.ofList expanded
  rowsAt (fun path => opened.contains path) limit Path.root 0 document

end JsonExplorer.Outline
