import JsonExplorer.Entries

/-!
Decoded JSON documents. A number is an exact integer or a double; the fields of an object keep
the order in which their keys first appeared. `Value.get?` follows a list of steps from a node to
one of its descendants, and `Value.nodes` lists every node with the steps that lead to it.
-/

namespace JsonExplorer

/-- Integers up to the 64-bit limits stay exact; every other number is a double. -/
inductive Number where
  | integer (i : Int)
  | float (x : Float)

inductive Value where
  | null
  | boolean (b : Bool)
  | number (n : Number)
  | string (s : String)
  | array (items : List Value)
  | object (fields : List (String × Value))
  deriving Inhabited

inductive Kind where
  | object | array | string | number | boolean | null
  deriving DecidableEq, Repr

namespace Kind

def isContainer : Kind → Bool
  | object | array => true
  | _ => false

def word : Kind → String
  | object => "object"
  | array => "array"
  | string => "string"
  | number => "number"
  | boolean => "boolean"
  | null => "null"

/-- The capitalised word for a kind, as listings show it. -/
def title : Kind → String
  | object => "Object"
  | array => "Array"
  | string => "String"
  | number => "Number"
  | boolean => "Boolean"
  | null => "Null"

end Kind

/-- One step from a container to a direct child. -/
inductive Step where
  | key (k : String)
  | index (i : Nat)
  deriving DecidableEq, Repr

namespace Value

def kind : Value → Kind
  | null => .null
  | boolean _ => .boolean
  | number _ => .number
  | string _ => .string
  | array _ => .array
  | object _ => .object

def isContainer (v : Value) : Bool := v.kind.isContainer

/-- The direct children of a node with the step to each, in document order. -/
def children : Value → List (Step × Value)
  | array items => items.zipIdx.map fun (v, i) => (.index i, v)
  | object fields => fields.map fun (k, v) => (.key k, v)
  | _ => []

def childCount : Value → Nat
  | array items => items.length
  | object fields => fields.length
  | _ => 0

theorem length_children (v : Value) : v.children.length = v.childCount := by
  cases v <;> simp [children, childCount]

def child? : Value → Step → Option Value
  | object fields, .key k => Entries.get? fields k
  | array items, .index i => items[i]?
  | _, _ => none

/-- The descendant at the end of a list of steps. -/
def get? (v : Value) : List Step → Option Value
  | [] => some v
  | s :: rest => (v.child? s).bind fun c => c.get? rest

theorem get?_append (v : Value) (first rest : List Step) :
    v.get? (first ++ rest) = (v.get? first).bind fun w => w.get? rest := by
  induction first generalizing v with
  | nil => rfl
  | cons s more ih =>
    simp only [List.cons_append, get?]
    cases v.child? s with
    | none => rfl
    | some c => exact ih c

mutual

/-- Every node below and including this one, in document order, with the steps that lead to it
from the root; `trail` are the steps already taken. -/
def nodesAt (trail : List Step) : Value → List (List Step × Value)
  | array items => (trail, array items) :: itemNodes trail 0 items
  | object fields => (trail, object fields) :: fieldNodes trail fields
  | v => [(trail, v)]

def itemNodes (trail : List Step) (i : Nat) : List Value → List (List Step × Value)
  | [] => []
  | v :: rest => nodesAt (trail ++ [.index i]) v ++ itemNodes trail (i + 1) rest

def fieldNodes (trail : List Step) : List (String × Value) → List (List Step × Value)
  | [] => []
  | (k, v) :: rest => nodesAt (trail ++ [.key k]) v ++ fieldNodes trail rest

end

/-- Every node of the document with the steps from the root to it, in document order. -/
def nodes (v : Value) : List (List Step × Value) := nodesAt [] v

mutual

/-- No object of the value holds a key twice. -/
def KeysDistinct : Value → Prop
  | array items => ItemsKeysDistinct items
  | object fields => (Entries.names fields).Nodup ∧ FieldsKeysDistinct fields
  | _ => True

def ItemsKeysDistinct : List Value → Prop
  | [] => True
  | v :: rest => KeysDistinct v ∧ ItemsKeysDistinct rest

def FieldsKeysDistinct : List (String × Value) → Prop
  | [] => True
  | (_, v) :: rest => KeysDistinct v ∧ FieldsKeysDistinct rest

end

end Value

end JsonExplorer
