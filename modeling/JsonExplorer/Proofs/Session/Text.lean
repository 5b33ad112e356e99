import JsonExplorer.Proofs.Json.RoundTrip
import JsonExplorer.Proofs.Session.Traffic

/-!
The text of a session and its document. Only a new text or a new document changes either of them,
and both operations leave a text that decodes to what is shown, or to the fault that is reported
(`text_agrees_with_document`).
-/

namespace JsonExplorer.Session

/-! ## Operations that leave the text alone -/

def source (s : Session) : String × Option Value × Option Json.DecodeError :=
  (s.text, s.document, s.error)

theorem source_search (s : Session) (query : Query) (handle : SearchRequest → Handling) :
    (s.search query handle).2.source = s.source := by
  by_cases hb : query.isBlank = true <;> simp only [search, hb] <;> rfl

theorem source_install (s : Session) (document : Option Value) (error : Option Json.DecodeError)
    (handle : SearchRequest → Handling) :
    (s.install document error handle).source = (s.text, document, error) := by
  by_cases hb : s.query.isBlank = true
  · simp only [install, hb, ↓reduceIte]
    rfl
  · simp only [install, hb, Bool.false_eq_true, ↓reduceIte]
    exact source_search _ _ _

theorem source_refresh (s : Session) : s.refresh.2.source = s.source := by
  by_cases h : s.coordinator.published.sequenceId = s.result.sequenceId
  · simp [refresh, h]
  · simp only [refresh, h, ↓reduceIte]
    rfl

theorem source_wait (s : Session) (limited : Bool) :
    (s.step (.wait limited)).source = s.source := by
  cases h : s.coordinator.wait? limited with
  | none => simp [step, wait?, h]
  | some w =>
    have hstep : s.step (.wait limited) = { s with coordinator := w.2 }.refresh.2 := by
      simp [step, wait?, h]
    rw [hstep, source_refresh]
    rfl

/-! ## Agreement -/

/-- The text decodes to what is shown, or there is no document and it decodes to the fault that is
reported. -/
def Agrees (s : Session) : Prop :=
  match s.error with
  | none => decode s.text = .ok s.value
  | some e => s.document = none ∧ decode s.text = .error e

theorem Agrees.of_source {s t : Session} (h : s.Agrees) (ht : t.source = s.source) : t.Agrees := by
  simp only [source, Prod.mk.injEq] at ht
  obtain ⟨htext, hdocument, herror⟩ := ht
  unfold Agrees value at h ⊢
  rwa [htext, hdocument, herror]

theorem agrees_fresh (rootTypeName : String) (previewLimit : Nat) :
    (fresh rootTypeName previewLimit).Agrees := by
  have hblank : Text.isBlankText "" = true := by decide
  simp [Agrees, fresh, decode, hblank, value]

theorem agrees_setText (s : Session) (text : String) (handle : SearchRequest → Handling) :
    (s.setText text handle).Agrees := by
  unfold setText
  cases h : decode text with
  | ok v =>
    have hsource := source_install { s with text := text } (some v) none handle
    simp only [source, Prod.mk.injEq] at hsource
    obtain ⟨htext, hdocument, herror⟩ := hsource
    simp [Agrees, value, htext, hdocument, herror, h]
  | error e =>
    have hsource := source_install { s with text := text } none (some e) handle
    simp only [source, Prod.mk.injEq] at hsource
    obtain ⟨htext, hdocument, herror⟩ := hsource
    simp [Agrees, htext, hdocument, herror, h]

theorem agrees_setDocument (s : Session) {v : Value} (plain : v.Plain 127)
    (handle : SearchRequest → Handling) : (s.setDocument v handle).Agrees := by
  have hsource := source_install { s with text := v.pretty } (some v) none handle
  simp only [source, Prod.mk.injEq] at hsource
  obtain ⟨htext, hdocument, herror⟩ := hsource
  simp [Agrees, value, setDocument, htext, hdocument, herror, decode_pretty plain]

/-- An event that opens no document a text could not carry. -/
def Event.Plain : Event → Prop
  | .setDocument document _ => document.Plain 127
  | _ => True

/-- **One event.** -/
theorem Agrees.step {s : Session} (h : s.Agrees) {e : Event} (plain : e.Plain) :
    (s.step e).Agrees := by
  cases e with
  | setText text handle => exact agrees_setText s text handle
  | setDocument document handle => exact agrees_setDocument s plain handle
  | search query handle => exact h.of_source (source_search s query handle)
  | refresh => exact h.of_source (source_refresh s)
  | wait limited => exact h.of_source (source_wait s limited)
  | toggle | expandAll | collapseAll | next | previous | send | drop => exact h.of_source rfl

theorem Agrees.foldl {s : Session} (h : s.Agrees) {events : List Event}
    (plain : ∀ e ∈ events, e.Plain) : (events.foldl Session.step s).Agrees := by
  induction events generalizing s with
  | nil => exact h
  | cons e rest ih =>
    obtain ⟨he, hrest⟩ := List.forall_mem_cons.mp plain
    exact ih (h.step he) hrest

/-- **Text and document never drift apart.** After any events, as long as every document that is
opened as such can be carried by a text: without a fault the text decodes to what is shown, and
with one there is no document and the text decodes to that fault. -/
theorem text_agrees_with_document (rootTypeName : String) (previewLimit : Nat)
    (events : List Event) (plain : ∀ e ∈ events, e.Plain) :
    let s := run (fresh rootTypeName previewLimit) events
    (s.error = none → decode s.text = .ok s.value) ∧
      ∀ e, s.error = some e → s.document = none ∧ decode s.text = .error e := by
  intro s
  have h : s.Agrees := (agrees_fresh rootTypeName previewLimit).foldl plain
  unfold Agrees at h
  constructor
  · intro he
    rwa [he] at h
  · intro e he
    rwa [he] at h

/-- A document is opened while a search is held back, and then a text that does not decode. -/
def opened : List Event :=
  [.search { term := "a" } fun _ => ⟨.kept, true⟩,
    .setDocument .extremes fun _ => ⟨.kept, true⟩,
    .expandAll,
    .setText "[1," fun _ => ⟨.dropped, false⟩]

set_option maxRecDepth 20000 in
theorem text_agrees_with_document_opened :
    (∀ e ∈ opened, e.Plain) ∧
      decode (run (fresh "Root" 120) (opened.take 3)).text = .ok .extremes ∧
      (run (fresh "Root" 120) opened).document = none ∧
      decode (run (fresh "Root" 120) opened).text =
        .error ⟨"EOF while parsing a value", 1, 3⟩ := by
  have plain : ∀ e ∈ opened, e.Plain := by
    simp only [opened, List.forall_mem_cons, Event.Plain]
    exact ⟨trivial, Value.plain_extremes.mono (by decide), trivial, trivial, by simp⟩
  have hok := (text_agrees_with_document "Root" 120 (opened.take 3)
    fun e he => plain e (List.mem_of_mem_take he)).1 (by decide +kernel)
  have hfault := (text_agrees_with_document "Root" 120 opened plain).2
    ⟨"EOF while parsing a value", 1, 3⟩ (by decide +kernel)
  exact ⟨plain, hok, hfault⟩

end JsonExplorer.Session
