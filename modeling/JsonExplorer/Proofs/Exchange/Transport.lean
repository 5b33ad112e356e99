import JsonExplorer.Exchange.Encode
import JsonExplorer.Proofs.Exchange.Records
import JsonExplorer.Search

/-!
Requests and responses on their way. A request leaves out the choices that are defaults, and its
reader puts them back; so each request is read back from its text, and so is each response, from
whose containers to open a result keeps the first of each (`survives_transport`).
-/

namespace JsonExplorer

open Json

/-! ## Queries -/

theorem MatchMode.ofWord?_word (m : MatchMode) : ofWord? m.word = some m := by
  cases m <;> decide

/-- Choices that are not written are the defaults. -/
theorem Query.ofFields_fields (q : Query) : Query.ofFields q.fields = .ok q := by
  have hmode : modeOf (.string q.mode.word) = .ok q.mode := by
    simp [modeOf, modeOfWord, MatchMode.ofWord?_word]
  obtain ⟨term, caseSensitive, mode⟩ := q
  cases caseSensitive <;> by_cases hm : mode = .substring <;>
    simp_all [fields, ofFields, QueryParts.read, textOf, boolOf, bind, Except.bind, pure,
      Except.pure]

theorem Query.names_fields_sublist (q : Query) :
    (Entries.names q.fields).Sublist ["term", "caseSensitive", "mode"] := by
  obtain ⟨term, caseSensitive, mode⟩ := q
  cases caseSensitive <;> by_cases hm : mode = .substring <;> simp [fields, Entries.names, hm]

theorem Query.plain_of_mem_fields {q : Query} {f : String × Value} (h : f ∈ q.fields) (n : Nat) :
    f.2.Plain n := by
  simp only [fields, List.mem_cons, List.mem_append] at h
  rcases h with rfl | h | h
  · exact .string n _
  · split at h
    · obtain rfl := List.mem_singleton.mp h
      exact .boolean n true
    · simp at h
  · split at h
    · simp at h
    · obtain rfl := List.mem_singleton.mp h
      exact .string n _

/-- The fields of a query are none of those a request has of its own. -/
theorem Query.fst_ne_of_mem_fields {q : Query} {f : String × Value} (h : f ∈ q.fields) :
    f.1 ≠ "sequenceId" ∧ f.1 ≠ "value" := by
  have hmem : f.1 ∈ ["term", "caseSensitive", "mode"] :=
    q.names_fields_sublist.subset (List.mem_map_of_mem h)
  constructor <;> intro hf <;> simp [hf] at hmem

/-! ## Requests -/

/-- A request that can be written: its number fits 64 bits, and a text can carry its document
together with the object around it. -/
structure SearchRequest.Plain (r : SearchRequest) : Prop where
  sequenceId : r.sequenceId < UInt64.size
  document : r.document.Plain 126

theorem RequestParts.finish_fields (r : SearchRequest) :
    RequestParts.finish ⟨some r.sequenceId, some r.document, r.query.fields⟩ = .ok r := by
  simp [finish, Query.ofFields_fields, bind, Except.bind, pure, Except.pure]

/-- Fields that are not its own are kept for the query of a request. -/
theorem takes_others {fields : List (String × Value)}
    (foreign : ∀ f ∈ fields, f.1 ≠ "sequenceId" ∧ f.1 ≠ "value")
    (plain : ∀ f ∈ fields, f.2.Plain 126) (parts : RequestParts) :
    Takes knownInRequest scanRequestField parts fields
      { parts with others := parts.others ++ fields } := by
  induction fields generalizing parts with
  | nil => simpa using Takes.nil parts
  | cons f rest ih =>
    obtain ⟨k, v⟩ := f
    obtain ⟨⟨hid, hvalue⟩, hrest⟩ := List.forall_mem_cons.mp foreign
    obtain ⟨hplain, hplains⟩ := List.forall_mem_cons.mp plain
    have hmore := ih hrest hplains { parts with others := parts.others ++ [(k, v)] }
    rw [List.append_assoc, List.singleton_append] at hmore
    have appends : Appends fun fields k v => fields ++ [(k, v)] := fun _ _ _ _ => rfl
    refine .cons (by simp_all [knownInRequest]) (fun after hafter => ?_) hmore
    have hread := scanValue_compact appends hplain (show 126 < nestingLimit - 1 by decide) hafter
    simp_all [scanRequestField, bind, Except.bind, pure, Except.pure]

theorem SearchRequest.takes_fields {r : SearchRequest} (h : r.Plain) :
    Takes knownInRequest scanRequestField {}
      (("sequenceId", .number (.integer r.sequenceId)) :: ("value", r.document) :: r.query.fields)
      ⟨some r.sequenceId, some r.document, r.query.fields⟩ := by
  have others : Takes knownInRequest scanRequestField ⟨some r.sequenceId, some r.document, []⟩
      r.query.fields ⟨some r.sequenceId, some r.document, r.query.fields⟩ :=
    takes_others (fun _ hf => Query.fst_ne_of_mem_fields hf)
      (fun _ hf => Query.plain_of_mem_fields hf 126) _
  have document : Takes knownInRequest scanRequestField ⟨some r.sequenceId, none, []⟩
      (("value", r.document) :: r.query.fields)
      ⟨some r.sequenceId, some r.document, r.query.fields⟩ := by
    refine .cons (by simp [knownInRequest]) (fun after hafter => ?_) others
    have hread := scanValue_compact appends_put h.document
      (show 126 < nestingLimit - 1 by decide) hafter
    simp [scanRequestField, hread, bind, Except.bind, pure, Except.pure]
  refine .cons (by decide) (fun after hafter => ?_) document
  simp [scanRequestField, scanNat_compact h.sequenceId "u64" hafter, bind, Except.bind, pure,
    Except.pure]

theorem readAll_of_scan {α : Type} {scan : List Char → Scan (α × List Char)} {a : α} {v : Value}
    (h : scan v.compactChars = .ok (a, [])) : readAll scan v.compact = .ok a := by
  simp [readAll, Value.compact, h, scanEnd, skipSpace, bind, Except.bind, pure, Except.pure]

theorem SearchRequest.parse_compact {r : SearchRequest} (h : r.Plain) :
    SearchRequest.parse r.toValue.compact = .ok r := by
  have hopen : isSpace '\x7b' = false := by decide
  have hobject := (SearchRequest.takes_fields h).scanObject_compact []
  rw [List.append_nil] at hobject
  refine readAll_of_scan ?_
  have htext : r.toValue.compactChars = '\x7b' :: r.toValue.compactChars.tail := rfl
  rw [htext]
  simp only [scanRequest, skipSpace_cons hopen]
  rw [toValue, hobject]
  simp [placed, RequestParts.finish_fields, bind, Except.bind]

theorem RequestParts.read_others {fields : List (String × Value)}
    (foreign : ∀ f ∈ fields, f.1 ≠ "sequenceId" ∧ f.1 ≠ "value") (parts : RequestParts) :
    parts.read fields = .ok { parts with others := parts.others ++ fields } := by
  induction fields generalizing parts with
  | nil => simp [read]
  | cons f rest ih =>
    obtain ⟨⟨hid, hvalue⟩, hrest⟩ := List.forall_mem_cons.mp foreign
    simp [read, hid, hvalue, ih hrest]

theorem SearchRequest.ofValue_toValue (r : SearchRequest) :
    SearchRequest.ofValue r.toValue = .ok r := by
  have others : RequestParts.read ⟨some r.sequenceId, some r.document, []⟩ r.query.fields =
      .ok ⟨some r.sequenceId, some r.document, r.query.fields⟩ :=
    RequestParts.read_others (fun _ hf => Query.fst_ne_of_mem_fields hf) _
  simp [ofValue, toValue, RequestParts.read, natOf, others, RequestParts.finish_fields, bind,
    Except.bind]

theorem SearchRequest.plain_toValue {r : SearchRequest} (h : r.Plain) : r.toValue.Plain 127 := by
  have hid : (r.sequenceId : Int) < 0x10000000000000000 := by
    have hsize : UInt64.size = 18446744073709551616 := by decide
    have := h.sequenceId
    omega
  have distinct := (r.query.names_fields_sublist.cons_cons "value").cons_cons "sequenceId"
  refine .object (distinct.nodup (by decide)) ?_
  simp only [List.forall_mem_cons]
  exact ⟨.integer 126 (by omega) hid, h.document, fun _ hf => Query.plain_of_mem_fields hf 126⟩

/-- A request is read back by way of a decoded value, too. -/
theorem SearchRequest.parseValue_compact {r : SearchRequest} (h : r.Plain) :
    SearchRequest.parseValue r.toValue.compact = .ok r := by
  simp [parseValue, Json.parse_compact (plain_toValue h), ofValue_toValue, bind, Except.bind]

/-! ## Responses -/

structure SearchResponse.Plain (r : SearchResponse) : Prop where
  sequenceId : r.sequenceId < UInt64.size
  count : r.count < UInt64.size

theorem SearchResponse.takes_fields {r : SearchResponse} (h : r.Plain) :
    Takes knownInResponse scanResponseField {}
      [("sequenceId", .number (.integer r.sequenceId)), ("paths", .array (r.paths.map .string)),
        ("count", .number (.integer r.count)),
        ("autoExpandedPaths", .array (r.expand.map .string))]
      ⟨some r.sequenceId, some r.paths, some r.count, some r.expand⟩ := by
  have expand : Takes knownInResponse scanResponseField
      ⟨some r.sequenceId, some r.paths, some r.count, none⟩
      [("autoExpandedPaths", .array (r.expand.map .string))]
      ⟨some r.sequenceId, some r.paths, some r.count, some r.expand⟩ := by
    refine .cons (by simp [knownInResponse]) (fun after _ => ?_) (.nil _)
    simp [scanResponseField, scanTexts_compact, bind, Except.bind, pure, Except.pure]
  have count : Takes knownInResponse scanResponseField ⟨some r.sequenceId, some r.paths, none, none⟩
      [("count", .number (.integer r.count)), ("autoExpandedPaths", .array (r.expand.map .string))]
      ⟨some r.sequenceId, some r.paths, some r.count, some r.expand⟩ := by
    refine .cons (by simp [knownInResponse]) (fun after hafter => ?_) expand
    simp [scanResponseField, scanNat_compact h.count "usize" hafter, bind, Except.bind, pure,
      Except.pure]
  have paths : Takes knownInResponse scanResponseField ⟨some r.sequenceId, none, none, none⟩
      [("paths", .array (r.paths.map .string)), ("count", .number (.integer r.count)),
        ("autoExpandedPaths", .array (r.expand.map .string))]
      ⟨some r.sequenceId, some r.paths, some r.count, some r.expand⟩ := by
    refine .cons (by simp [knownInResponse]) (fun after _ => ?_) count
    simp [scanResponseField, scanTexts_compact, bind, Except.bind, pure, Except.pure]
  refine .cons (by simp [knownInResponse]) (fun after hafter => ?_) paths
  simp [scanResponseField, scanNat_compact h.sequenceId "u64" hafter, bind, Except.bind, pure,
    Except.pure]

theorem SearchResponse.parse_compact {r : SearchResponse} (h : r.Plain) :
    SearchResponse.parse r.toValue.compact = .ok r := by
  have hopen : isSpace '\x7b' = false := by decide
  have hobject := (SearchResponse.takes_fields h).scanObject_compact []
  rw [List.append_nil] at hobject
  refine readAll_of_scan ?_
  have htext : r.toValue.compactChars = '\x7b' :: r.toValue.compactChars.tail := rfl
  rw [htext]
  simp only [scanResponse, skipSpace_cons hopen]
  rw [toValue, answerValue, hobject]
  simp [placed, ResponseParts.finish, bind, Except.bind, pure, Except.pure]

theorem textsOf_map_string (ss : List String) : textsOf (.array (ss.map .string)) = .ok ss := by
  have hread : (ss.map Value.string).mapM textOf = .ok ss := by
    induction ss with
    | nil => rfl
    | cons s rest ih =>
      rw [List.map_cons, List.mapM_cons, ih]
      rfl
  exact hread

theorem SearchResponse.ofValue_toValue (r : SearchResponse) :
    SearchResponse.ofValue r.toValue = .ok r := by
  simp [ofValue, toValue, answerValue, ResponseParts.read, natOf, textsOf_map_string,
    ResponseParts.finish, bind, Except.bind, pure, Except.pure]

/-! ## There and back -/

/-- **Requests and responses survive transport.** A request is read back as it was from its text,
be it straight or by way of a decoded value, so that it is answered as if it had never been
written; a response is read back as it was, and the result made of it differs from it only in that
each container to open is kept where it first appears. -/
theorem survives_transport :
    (∀ r : SearchRequest, r.Plain →
      SearchRequest.parse r.toValue.compact = .ok r ∧
      SearchRequest.parseValue r.toValue.compact = .ok r ∧
      SearchRequest.ofValue r.toValue = .ok r ∧
      (SearchRequest.parse r.toValue.compact).map Search.execute = .ok (Search.execute r) ∧
      (SearchRequest.parseValue r.toValue.compact).map Search.execute =
        .ok (Search.execute r)) ∧
    (∀ r : SearchResponse, r.Plain →
      SearchResponse.parse r.toValue.compact = .ok r ∧
      SearchResponse.ofValue r.toValue = .ok r) ∧
    ∀ r : SearchResponse,
      SearchResult.ofResponse r = ⟨r.sequenceId, r.paths, r.count, r.expand.eraseDups⟩ ∧
      r.expand.eraseDups.Nodup := by
  refine ⟨fun r h => ?_, fun r h => ?_, fun r => ⟨?_, ?_⟩⟩
  · have htext := SearchRequest.parse_compact h
    have hvalue := SearchRequest.parseValue_compact h
    refine ⟨htext, hvalue, r.ofValue_toValue, ?_, ?_⟩
    · rw [htext]
      rfl
    · rw [hvalue]
      rfl
  · exact ⟨SearchResponse.parse_compact h, r.ofValue_toValue⟩
  · rw [SearchResult.ofResponse, distinct_eq_eraseDups]
  · rw [← distinct_eq_eraseDups]
    exact nodup_distinct r.expand

/-- The largest number, a document that is plain but not simple, and no choice left at its
default. -/
def farRequest : SearchRequest := ⟨18446744073709551615, .extremes, ⟨"^\"\x00é", true, .regex⟩⟩

/-- A response that opens a container twice. -/
def repetitive : SearchResponse := ⟨7, ["Root.a", "Root.\n"], 2, ["Root", "Root.a", "Root"]⟩

theorem survives_transport_escapes :
    farRequest.Plain ∧ SearchRequest.parse farRequest.toValue.compact = .ok farRequest ∧
      repetitive.Plain ∧
      (SearchResponse.parse repetitive.toValue.compact).map SearchResult.ofResponse =
        .ok ⟨7, ["Root.a", "Root.\n"], 2, ["Root", "Root.a"]⟩ := by
  have request : farRequest.Plain := ⟨by decide, Value.plain_extremes.mono (by decide)⟩
  have response : repetitive.Plain := ⟨by decide, by decide⟩
  obtain ⟨requests, responses, results⟩ := survives_transport
  refine ⟨request, (requests farRequest request).1, response, ?_⟩
  rw [(responses repetitive response).1, Except.map, (results repetitive).1]
  rfl

end JsonExplorer
