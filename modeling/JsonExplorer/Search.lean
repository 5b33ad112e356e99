import JsonExplorer.Distinct
import JsonExplorer.Exchange
import JsonExplorer.Json.Encode
import JsonExplorer.Path
import JsonExplorer.Pattern

/-!
Searching a document. A node matches by its name, a leaf also by its text. `matchPaths` lists the
paths of matching nodes in document order, and `revealPaths` the containers to open so that every
match can be seen. Both are functions of a test on text, whichever query it comes from.
-/

namespace JsonExplorer

/-- A number as it is shown and searched: whole doubles below `10 ^ 21` print as integers. -/
def Number.display : Number → String
  | .integer i => toString i
  | .float x =>
    let d := Decimal.Double.ofFloat x
    if d.isWhole && d.whole < Nat.pow 10 21 then
      if d.whole = 0 then "0"
      else (if d.negative then "-" else "") ++ toString d.whole
    else Decimal.floatText x

namespace Value

/-- The text of a leaf; containers have none. -/
def leafText? : Value → Option String
  | null => some "null"
  | boolean b => some (if b then "true" else "false")
  | number n => some n.display
  | string s => some s
  | array _ | object _ => none

end Value

namespace Search

/-- The test a query puts to a text, with patterns read as regular expressions. -/
def test? (q : Query) : Option (String → Bool) := q.testWith? Pattern.compile?

def nodeMatches (test : String → Bool) (name : String) (v : Value) : Bool :=
  test name || v.leafText?.any test

mutual

/-- The paths of all containers below and including the node at `path`, in document order. -/
def containersAt (path : String) : Value → List String
  | .array items => path :: itemContainers path 0 items
  | .object fields => path :: fieldContainers path fields
  | _ => []

def itemContainers (path : String) (i : Nat) : List Value → List String
  | [] => []
  | v :: rest => containersAt (Path.childIndex path i) v ++ itemContainers path (i + 1) rest

def fieldContainers (path : String) : List (String × Value) → List String
  | [] => []
  | (k, v) :: rest => containersAt (Path.childKey path k) v ++ fieldContainers path rest

end

/-- Every path that can be opened, once each. -/
def expandablePaths (document : Value) : List String := distinct (containersAt Path.root document)

mutual

def matchesAt (test : String → Bool) (path : String) : Value → List String
  | .array items => here test path (.array items) ++ itemMatches test path 0 items
  | .object fields => here test path (.object fields) ++ fieldMatches test path fields
  | v => here test path v

def itemMatches (test : String → Bool) (path : String) (i : Nat) : List Value → List String
  | [] => []
  | v :: rest =>
    matchesAt test (Path.childIndex path i) v ++ itemMatches test path (i + 1) rest

def fieldMatches (test : String → Bool) (path : String) : List (String × Value) → List String
  | [] => []
  | (k, v) :: rest => matchesAt test (Path.childKey path k) v ++ fieldMatches test path rest

def here (test : String → Bool) (path : String) (v : Value) : List String :=
  if nodeMatches test (Path.name path) v then [path] else []

end

/-- The paths of all nodes that match, once each. -/
def matchPaths (test : String → Bool) (document : Value) : List String :=
  distinct (matchesAt test Path.root document)

mutual

/-- Whether anything in the subtree at `path` matches, and the containers in it that hold a match,
in document order. A container counts its own name. -/
def revealAt (test : String → Bool) (path : String) : Value → Bool × List String
  | .array items => reveal test path (itemReveals test path 0 items)
  | .object fields => reveal test path (fieldReveals test path fields)
  | v => (nodeMatches test (Path.name path) v, [])

def itemReveals (test : String → Bool) (path : String) (i : Nat) :
    List Value → Bool × List String
  | [] => (false, [])
  | v :: rest =>
    join (revealAt test (Path.childIndex path i) v) (itemReveals test path (i + 1) rest)

def fieldReveals (test : String → Bool) (path : String) :
    List (String × Value) → Bool × List String
  | [] => (false, [])
  | (k, v) :: rest => join (revealAt test (Path.childKey path k) v) (fieldReveals test path rest)

/-- A container around its children: it is opened if it or one of them matches. -/
def reveal (test : String → Bool) (path : String) (children : Bool × List String) :
    Bool × List String :=
  let hit := test (Path.name path) || children.1
  (hit, if hit then path :: children.2 else children.2)

def join (first rest : Bool × List String) : Bool × List String :=
  (first.1 || rest.1, first.2 ++ rest.2)

end

/-- The containers to open so that every match can be seen, once each. -/
def revealPaths (test : String → Bool) (document : Value) : List String :=
  distinct (revealAt test Path.root document).2

def matches? (q : Query) (document : Value) : List String :=
  match test? q with
  | some test => matchPaths test document
  | none => []

def reveals? (q : Query) (document : Value) : List String :=
  match test? q with
  | some test => revealPaths test document
  | none => []

/-- Answers a request. Without matches there is nothing to open. -/
def execute (request : SearchRequest) : SearchResponse :=
  let paths := matches? request.query request.document
  { sequenceId := request.sequenceId
    paths := paths
    count := paths.length
    expand := if paths.isEmpty then [] else reveals? request.query request.document }

end Search

end JsonExplorer
