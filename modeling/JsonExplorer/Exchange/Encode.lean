import JsonExplorer.Exchange
import JsonExplorer.Json.Encode

/-!
Requests and answers as JSON. The choices of a query stand beside the other fields of its request,
and only those that differ from the defaults are written.
-/

namespace JsonExplorer

def Query.fields (q : Query) : List (String × Value) :=
  ("term", .string q.term) ::
    ((if q.caseSensitive then [("caseSensitive", .boolean true)] else []) ++
      (if q.mode = .substring then [] else [("mode", .string q.mode.word)]))

def Query.toValue (q : Query) : Value := .object q.fields

def SearchRequest.toValue (r : SearchRequest) : Value :=
  .object (("sequenceId", .number (.integer r.sequenceId)) :: ("value", r.document) ::
    r.query.fields)

/-- An answer as JSON, be it a response or a result. -/
def answerValue (sequenceId : Nat) (paths : List String) (count : Nat) (expand : List String) :
    Value :=
  .object [
    ("sequenceId", .number (.integer sequenceId)),
    ("paths", .array (paths.map .string)),
    ("count", .number (.integer count)),
    ("autoExpandedPaths", .array (expand.map .string))]

def SearchResponse.toValue (r : SearchResponse) : Value :=
  answerValue r.sequenceId r.paths r.count r.expand

def SearchResult.toValue (r : SearchResult) : Value :=
  answerValue r.sequenceId r.paths r.count r.expand

end JsonExplorer
