import JsonExplorer.Coordinator
import JsonExplorer.Json.Decode
import JsonExplorer.Outline
import JsonExplorer.Search
import JsonExplorer.Shape.Declaration
import JsonExplorer.Shape.Infer

/-!
One open document: its text and what it decodes to, the rows that are open, and the search that is
under way. Changing the document runs the current search again on the new one.
-/

namespace JsonExplorer

/-- A place in a list of matches. Moves go around the ends. -/
structure Cursor where
  index : Nat := 0
  deriving DecidableEq, Repr

namespace Cursor

def next (c : Cursor) (n : Nat) : Cursor := if n = 0 then c else ⟨(c.index + 1) % n⟩

def previous (c : Cursor) (n : Nat) : Cursor := if n = 0 then c else ⟨(c.index + n - 1) % n⟩

theorem next_lt (c : Cursor) {n : Nat} (hn : 0 < n) : (c.next n).index < n := by
  have h : n ≠ 0 := by omega
  simp only [next, if_neg h]
  exact Nat.mod_lt _ hn

theorem previous_lt (c : Cursor) {n : Nat} (hn : 0 < n) : (c.previous n).index < n := by
  have h : n ≠ 0 := by omega
  simp only [previous, if_neg h]
  exact Nat.mod_lt _ hn

end Cursor

structure Session where
  text : String := ""
  document : Option Value := none
  error : Option Json.DecodeError := none
  expanded : List String := []
  autoExpanded : List String := []
  query : Query := {}
  result : SearchResult := {}
  cursor : Cursor := {}
  coordinator : Coordinator := {}
  rootTypeName : String := Path.root
  previewLimit : Nat := 120

namespace Session

/-- What the outline and the search see: without a document, `null`. -/
def value (s : Session) : Value := s.document.getD .null

/-- Starts a search and gives its number. A blank one closes what earlier searches opened. -/
def search (s : Session) (query : Query) (handle : SearchRequest → Handling) : Nat × Session :=
  let s := if query.isBlank then { s with autoExpanded := [], cursor := {} } else s
  let (id, c) := s.coordinator.search s.value query handle
  (id, { s with query := query, coordinator := c })

/-- Puts a document in place and runs the current search again on it. -/
def install (s : Session) (document : Option Value) (error : Option Json.DecodeError)
    (handle : SearchRequest → Handling) : Session :=
  let s := { s with document := document, error := error }
  if s.query.isBlank then s else (s.search s.query handle).2

/-- Replaces the text. If it does not decode, there is no document and the fault is kept. -/
def setText (s : Session) (text : String) (handle : SearchRequest → Handling) : Session :=
  let s := { s with text := text }
  match decode text with
  | .ok v => s.install (some v) none handle
  | .error e => s.install none (some e) handle

/-- Opens a decoded document, whose text is its form laid out over lines. -/
def setDocument (s : Session) (v : Value) (handle : SearchRequest → Handling) : Session :=
  { s with text := v.pretty }.install (some v) none handle

/-- Takes over a result. One that opens nothing leaves open what earlier ones opened. -/
def apply (s : Session) (r : SearchResult) : Session :=
  { s with
    autoExpanded := if r.expand.isEmpty then s.autoExpanded else r.expand
    cursor := {}
    result := r }

/-- Takes over the published result if it is another than the one at hand, and tells whether. -/
def refresh (s : Session) : Bool × Session :=
  let latest := s.coordinator.published
  if latest.sequenceId = s.result.sequenceId then (false, s) else (true, s.apply latest)

/-- Waits for the search under way and takes over its result; nothing if the wait has no end. -/
def wait? (s : Session) (limited : Bool) : Option (SearchResult × Session) :=
  (s.coordinator.wait? limited).map fun (_, c) =>
    let s := { s with coordinator := c }.refresh.2
    (s.result, s)

def matchPaths (s : Session) : List String := s.result.paths

def matchCount (s : Session) : Nat := s.result.count

def currentMatch (s : Session) : Option String := s.result.paths[s.cursor.index]?

def nextMatch (s : Session) : Option String × Session :=
  let s := { s with cursor := s.cursor.next s.result.paths.length }
  (s.currentMatch, s)

def previousMatch (s : Session) : Option String × Session :=
  let s := { s with cursor := s.cursor.previous s.result.paths.length }
  (s.currentMatch, s)

/-- Opens a path, or closes it if it has been opened by hand. -/
def toggle (s : Session) (path : String) : Session :=
  { s with
    expanded :=
      if path ∈ s.expanded then s.expanded.filter (· ≠ path) else s.expanded ++ [path] }

def expandAll (s : Session) : Session :=
  { s with expanded := Search.expandablePaths s.value }

def collapseAll (s : Session) : Session := { s with expanded := [], autoExpanded := [] }

def isExpanded (s : Session) (path : String) : Bool :=
  s.expanded.contains path || s.autoExpanded.contains path

/-- The declarations inferred for the document; none while there is nothing but `null`. -/
def typeDeclarations (s : Session) : Option String :=
  match s.document with
  | none | some .null => none
  | some v => some ((Inference.ofValue v).render s.rootTypeName)

def visibleRows (s : Session) : List Outline.Row :=
  Outline.rows s.value (s.expanded ++ s.autoExpanded) (some s.previewLimit)

/-- What can happen to a session: what its user does, and what becomes of the replies that an
executor has kept. -/
inductive Event where
  | setText (text : String) (handle : SearchRequest → Handling)
  | setDocument (document : Value) (handle : SearchRequest → Handling)
  | search (query : Query) (handle : SearchRequest → Handling)
  | refresh
  | wait (limited : Bool)
  | toggle (path : String)
  | expandAll
  | collapseAll
  | next
  | previous
  | send (id : Nat) (response : SearchResponse)
  | drop (id : Nat)

/-- A wait that would have no end leaves everything as it is. -/
def step (s : Session) : Event → Session
  | .setText text handle => s.setText text handle
  | .setDocument document handle => s.setDocument document handle
  | .search query handle => (s.search query handle).2
  | .refresh => s.refresh.2
  | .wait limited => ((s.wait? limited).map (·.2)).getD s
  | .toggle path => s.toggle path
  | .expandAll => s.expandAll
  | .collapseAll => s.collapseAll
  | .next => s.nextMatch.2
  | .previous => s.previousMatch.2
  | .send id response => { s with coordinator := s.coordinator.send id response }
  | .drop id => { s with coordinator := s.coordinator.drop id }

def run (start : Session) (events : List Event) : Session := events.foldl step start

end Session

end JsonExplorer
