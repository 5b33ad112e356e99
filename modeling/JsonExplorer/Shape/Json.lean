import JsonExplorer.Json.Encode
import JsonExplorer.Shape

/-!
Shapes as JSON: an object whose `kind` tells which shape it is.
-/

namespace JsonExplorer

namespace Shape

/-- An object that holds nothing but a kind. -/
def kindOnly (word : String) : Value := .object [("kind", .string word)]

mutual

def toValue : Shape → Value
  | string => kindOnly "string"
  | number => kindOnly "number"
  | boolean => kindOnly "boolean"
  | null => kindOnly "null"
  | unknown => kindOnly "unknown"
  | array element => .object [("kind", .string "array"), ("element", element.toValue)]
  | object fields => .object [("kind", .string "object"), ("fields", .object (fieldValues fields))]
  | union members => .object [("kind", .string "union"), ("types", .array (memberValues members))]
  | ref name => .object [("kind", .string "ref"), ("name", .string name)]

def fieldValues : List (String × Shape) → List (String × Value)
  | [] => []
  | (k, s) :: rest => (k, s.toValue) :: fieldValues rest

def memberValues : List Shape → List Value
  | [] => []
  | s :: rest => s.toValue :: memberValues rest

end

end Shape

def Registry.toValue (r : Registry) : Value :=
  .object [("entries", .object (Shape.fieldValues r))]

def Inference.toValue (i : Inference) : Value :=
  .object [("root", i.root.toValue), ("registry", Registry.toValue i.registry)]

end JsonExplorer
