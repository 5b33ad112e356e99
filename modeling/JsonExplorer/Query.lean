import JsonExplorer.Text.Case

/-!
What to look for in a document. A query is a term with a way of matching it; without further
choices it looks for the term anywhere in a text and takes no account of case.
-/

namespace JsonExplorer

inductive MatchMode where
  | substring
  | wholeWord
  | regex
  deriving DecidableEq, Repr

namespace MatchMode

def word : MatchMode → String
  | substring => "substring"
  | wholeWord => "wholeWord"
  | regex => "regex"

def ofWord? : String → Option MatchMode
  | "substring" => some substring
  | "wholeWord" => some wholeWord
  | "regex" => some regex
  | _ => none

end MatchMode

structure Query where
  term : String := ""
  caseSensitive : Bool := false
  mode : MatchMode := .substring
  deriving DecidableEq, Inhabited

namespace Query

/-- A blank query finds nothing and is answered without a search. -/
def isBlank (q : Query) : Bool := Text.isBlankText q.term

end Query

def occursIn (needle : List Char) : List Char → Bool
  | [] => needle.isEmpty
  | c :: rest => needle.isPrefixOf (c :: rest) || occursIn needle rest

theorem occursIn_iff (needle text : List Char) :
    occursIn needle text = true ↔ needle <:+: text := by
  induction text with
  | nil => simp [occursIn]
  | cons c rest ih => simp [occursIn, List.infix_cons_iff, ih]

/-- The pieces between characters that are no part of a word; there may be empty ones. -/
def wordPieces : List Char → List (List Char)
  | [] => [[]]
  | c :: rest =>
    match wordPieces rest with
    | piece :: pieces =>
      if Text.isAlphanumeric c then (c :: piece) :: pieces else [] :: piece :: pieces
    | [] => []

namespace Query

/-- The form in which term and text are compared. -/
def compared (q : Query) (cs : List Char) : List Char :=
  if q.caseSensitive then cs else Text.lowerChars cs

def needle (q : Query) : List Char := q.compared (Text.trimChars q.term.toList)

/-- The test a query puts to a text, if it has one: a blank term has none, nor has a pattern that
`compile` refuses. `compile` gets the case flag and the trimmed term. -/
def testWith? (compile : Bool → String → Option (String → Bool)) (q : Query) :
    Option (String → Bool) :=
  if q.isBlank then none
  else match q.mode with
    | .regex => compile q.caseSensitive (Text.trim q.term)
    | .substring => some fun text => occursIn q.needle (q.compared text.toList)
    | .wholeWord => some fun text => (wordPieces (q.compared text.toList)).contains q.needle

end Query

end JsonExplorer
