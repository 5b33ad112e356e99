import JsonExplorer.Path
import JsonExplorer.Shape
import JsonExplorer.Text.Case

/-!
Inferring the shape of a document. Every nested object is declared under a name made from the key
that holds it; objects in an array get the singular of the array's name. Two objects of one name
share one declaration, in the place of the first and with the shape of the last.
-/

namespace JsonExplorer

namespace Shape

def typeName (key : String) : String := if key = "" then "Field" else Text.capitalize key

/-- The name for the items of an array: without a final `s` if something is left, else with `Item`
behind it. -/
def singularChars (name : List Char) : List Char :=
  match name.getLast? with
  | some 's' =>
    if name.length = 1 then Text.capitalizeChars name ++ "Item".toList
    else Text.capitalizeChars name.dropLast
  | _ => Text.capitalizeChars name ++ "Item".toList

def singularName (name : String) : String := String.ofList (singularChars name.toList)

/-- The shapes without repeats, in order of first appearance. -/
def distinctShapes (seen : List Shape) : List Shape → List Shape
  | [] => []
  | s :: rest =>
    if s ∈ seen then distinctShapes seen rest else s :: distinctShapes (s :: seen) rest

/-- One shape for all items of an array: the shared one, or the union of the different ones. -/
def unify (shapes : List Shape) : Shape :=
  match distinctShapes [] shapes with
  | [s] => s
  | members => union members

/-- Arrays of at least this many items have their items inferred independently of each other. -/
def apartThreshold : Nat := 2048

mutual

/-- The shape of a value called `name`, and the registry with its nested objects declared. The
object at the root is written out instead of being declared. -/
def infer (registry : Registry) (name : String) (isRoot : Bool) : Value → Shape × Registry
  | .null => (null, registry)
  | .boolean _ => (boolean, registry)
  | .number _ => (number, registry)
  | .string _ => (string, registry)
  | .array [] => (array unknown, registry)
  | .array (v :: rest) =>
    let (shapes, registry) :=
      if (v :: rest).length < apartThreshold then
        inferThreaded registry (singularName name) (v :: rest)
      else
        let parts := inferApart (singularName name) (v :: rest)
        (parts.map (·.1), parts.foldl (fun r p => Registry.absorb r p.2) registry)
    (array (unify shapes), registry)
  | .object fields =>
    let (shapes, registry) := inferFields registry fields
    if isRoot then (object shapes, registry)
    else (ref name, Entries.put registry name (object shapes))

/-- Items one after another, each adding to the registry left by the one before. -/
def inferThreaded (registry : Registry) (name : String) : List Value → List Shape × Registry
  | [] => ([], registry)
  | v :: rest =>
    let (shape, registry) := infer registry name false v
    let (shapes, registry) := inferThreaded registry name rest
    (shape :: shapes, registry)

/-- Items each with a registry of its own. -/
def inferApart (name : String) : List Value → List (Shape × Registry)
  | [] => []
  | v :: rest => infer [] name false v :: inferApart name rest

def inferFields (registry : Registry) :
    List (String × Value) → List (String × Shape) × Registry
  | [] => ([], registry)
  | (k, v) :: rest =>
    let (shape, registry) := infer registry (typeName k) false v
    let (shapes, registry) := inferFields registry rest
    ((k, shape) :: shapes, registry)

end

end Shape

def Inference.ofValue (document : Value) : Inference :=
  let (root, registry) := Shape.infer [] Path.root true document
  ⟨root, registry⟩

end JsonExplorer
