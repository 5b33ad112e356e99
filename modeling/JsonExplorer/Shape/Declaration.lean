import JsonExplorer.Shape

/-!
Declarations of shapes as text: an interface for an object, a type alias for anything else.
-/

namespace JsonExplorer

namespace Shape

/-- Two blanks for each level. -/
def indent (level : Nat) : String := String.ofList (List.replicate (2 * level) ' ')

mutual

/-- The text of a shape inside `level` open objects. -/
def render (level : Nat) : Shape → String
  | string => "string"
  | number => "number"
  | boolean => "boolean"
  | null => "null"
  | unknown => "unknown"
  | array element =>
    if element.isUnion then "(" ++ render level element ++ ")[]"
    else render level element ++ "[]"
  | union members => renderMembers level members
  | object [] => "\x7b\x7d"
  | object (f :: rest) =>
    "\x7b\n" ++ renderFields level (f :: rest) ++ indent level ++ "\x7d"
  | ref name => name

def renderMembers (level : Nat) : List Shape → String
  | [] => ""
  | [s] => render level s
  | s :: t :: rest => render level s ++ " | " ++ renderMembers level (t :: rest)

def renderFields (level : Nat) : List (String × Shape) → String
  | [] => ""
  | (k, s) :: rest =>
    indent (level + 1) ++ k ++ ": " ++ render (level + 1) s ++ ";\n" ++ renderFields level rest

end

def isObject : Shape → Bool
  | object _ => true
  | _ => false

def declaration (name : String) (s : Shape) : String :=
  if s.isObject then "interface " ++ name ++ " " ++ s.render 0
  else "type " ++ name ++ " = " ++ s.render 0 ++ ";"

end Shape

namespace Inference

/-- The names and shapes declared for an inference, the root last. -/
def declared (rootName : String) (inference : Inference) : List (String × Shape) :=
  inference.registry ++ [(rootName, inference.root)]

/-- All declarations with an empty line between them. -/
def render (rootName : String) (inference : Inference) : String :=
  "\n\n".intercalate ((inference.declared rootName).map fun (name, s) => s.declaration name)

end Inference

end JsonExplorer
