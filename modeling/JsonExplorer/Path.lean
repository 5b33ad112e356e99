import JsonExplorer.Text.Whole
import JsonExplorer.Value

/-!
Paths as text. The root is `Root`; a field adds a dot and its key, an item adds its index in
brackets. Keys are not escaped, so a key that holds a dot or a bracketed number gives the same text
as another place, and every reader goes by the text alone.
-/

namespace JsonExplorer.Path

def root : String := "Root"

def childKey (parent key : String) : String := parent ++ "." ++ key

def childIndex (parent : String) (i : Nat) : String := parent ++ "[" ++ toString i ++ "]"

def child (parent : String) : Step → String
  | .key k => childKey parent k
  | .index i => childIndex parent i

/-- The path of the node at the end of some steps from the root. -/
def ofSteps (steps : List Step) : String := steps.foldl child root

theorem ofSteps_concat (steps : List Step) (s : Step) :
    ofSteps (steps ++ [s]) = child (ofSteps steps) s := by
  simp [ofSteps]

def afterLast (x : Char) : List Char → Option (List Char)
  | [] => none
  | c :: rest =>
    match afterLast x rest with
    | some found => some found
    | none => if c = x then some rest else none

/-- The digits of a text that consists of some digits and a closing bracket. -/
def bracketedDigits? (cs : List Char) : Option (List Char) :=
  let digits := cs.takeWhile Char.isDigit
  if digits ≠ [] ∧ cs.dropWhile Char.isDigit = [']'] then some digits else none

def nameChars (path : List Char) : List Char :=
  match (afterLast '[' path).bind bracketedDigits? with
  | some digits => digits
  | none => (afterLast '.' path).getD path

/-- The name shown for the node at a path: the index or the key of its last step. -/
def name (path : String) : String := String.ofList (nameChars path.toList)

/-- Whether the text behind an opening bracket goes on with digits and a closing one. -/
def opensIndex (cs : List Char) : Bool :=
  cs.takeWhile Char.isDigit ≠ [] && (cs.dropWhile Char.isDigit).head? == some ']'

/-- Splits off a key, which runs up to the next dot or bracketed number. -/
def splitKey : List Char → List Char × List Char
  | [] => ([], [])
  | c :: rest =>
    if c = '.' ∨ (c = '[' ∧ opensIndex rest) then ([], c :: rest)
    else
      let (key, after) := splitKey rest
      (c :: key, after)

/-- Reads an index. A plus sign may lead, and so may zeros. -/
def index? (cs : List Char) : Option Nat := (Text.whole cs).toOption

/-- Splits what follows the root into steps. Each step takes at least one character, so the length
of the text bounds their number. -/
def stepsFrom : Nat → List Char → Option (List Step)
  | _, [] => some []
  | 0, _ :: _ => none
  | fuel + 1, c :: rest =>
    if c = '[' then
      if ']' ∈ rest then do
        let i ← index? (rest.takeWhile (· ≠ ']'))
        let more ← stepsFrom fuel ((rest.dropWhile (· ≠ ']')).drop 1)
        pure (.index i :: more)
      else none
    else if c = '.' then do
      let (key, after) := splitKey rest
      let more ← stepsFrom fuel after
      pure (.key (String.ofList key) :: more)
    else none

def dropRoot : List Char → Option (List Char)
  | 'R' :: 'o' :: 'o' :: 't' :: rest => some rest
  | _ => none

/-- The steps a path describes, if it starts at the root and every index is a number. -/
def steps? (path : String) : Option (List Step) :=
  (dropRoot path.toList).bind fun rest => stepsFrom rest.length rest

/-- The node at a path, if every step exists. -/
def resolve (document : Value) (path : String) : Option Value :=
  (steps? path).bind document.get?

/-- A key whose text cannot be mistaken for more than one step: no dot and no bracketed number. -/
def CleanKey (key : String) : Prop :=
  '.' ∉ key.toList ∧
    ∀ before digits after, key.toList = before ++ '[' :: (digits ++ ']' :: after) →
      digits = [] ∨ ∃ d ∈ digits, d.isDigit = false

end JsonExplorer.Path
