import JsonExplorer.Distinct
import JsonExplorer.Query
import JsonExplorer.Value

/-!
What passes between those who ask for a search and those who answer it. A response lists the
containers to open as it likes; a result holds each of them once.
-/

namespace JsonExplorer

structure SearchRequest where
  sequenceId : Nat
  document : Value
  query : Query

structure SearchResponse where
  sequenceId : Nat := 0
  paths : List String := []
  count : Nat := 0
  expand : List String := []
  deriving DecidableEq, Repr

def SearchResponse.empty (sequenceId : Nat) : SearchResponse := { sequenceId := sequenceId }

structure SearchResult where
  sequenceId : Nat := 0
  paths : List String := []
  count : Nat := 0
  expand : List String := []
  deriving DecidableEq, Repr

namespace SearchResult

def ofResponse (r : SearchResponse) : SearchResult :=
  ⟨r.sequenceId, r.paths, r.count, distinct r.expand⟩

def isEmpty (r : SearchResult) : Bool := r.paths.isEmpty && r.expand.isEmpty

end SearchResult

end JsonExplorer
