import JsonExplorer.Json.Encode
import JsonExplorer.Json.Scan

/-!
Texts of values in different layouts. A layout says which blanks stand between the tokens of a
text; the text without blanks (`chars_compact`) and the one laid out over lines (`chars_pretty`)
are two of them. `Value.Plain` are the documents that come back from such a text as they were.
-/

namespace JsonExplorer

/-- A document that a text can carry unharmed: its numbers are integers from `-2 ^ 63` up to below
`2 ^ 64`, no object holds a key twice, and at most `depth` containers are open at once. -/
inductive Value.Plain : Nat → Value → Prop
  | null (depth : Nat) : Plain depth .null
  | boolean (depth : Nat) (b : Bool) : Plain depth (.boolean b)
  | integer (depth : Nat) {i : Int} (low : -0x8000000000000000 ≤ i)
      (high : i < 0x10000000000000000) : Plain depth (.number (.integer i))
  | string (depth : Nat) (s : String) : Plain depth (.string s)
  | array {depth : Nat} {items : List Value} (item : ∀ v ∈ items, Plain depth v) :
      Plain (depth + 1) (.array items)
  | object {depth : Nat} {fields : List (String × Value)} (distinct : (Entries.names fields).Nodup)
      (field : ∀ f ∈ fields, Plain depth f.2) : Plain (depth + 1) (.object fields)

namespace Value

theorem plain_integer_iff {depth : Nat} {i : Int} :
    Plain depth (.number (.integer i)) ↔ -0x8000000000000000 ≤ i ∧ i < 0x10000000000000000 :=
  ⟨fun h => by cases h; exact ⟨‹_›, ‹_›⟩, fun h => .integer depth h.1 h.2⟩

theorem plain_array_iff {depth : Nat} {items : List Value} :
    Plain (depth + 1) (.array items) ↔ ∀ v ∈ items, v.Plain depth :=
  ⟨fun h => by cases h; assumption, .array⟩

theorem plain_object_iff {depth : Nat} {fields : List (String × Value)} :
    Plain (depth + 1) (.object fields) ↔
      (Entries.names fields).Nodup ∧ ∀ f ∈ fields, Plain depth f.2 :=
  ⟨fun h => by cases h; exact ⟨‹_›, ‹_›⟩, fun h => .object h.1 h.2⟩

theorem Plain.mono {depth deeper : Nat} {v : Value} (h : v.Plain depth) (le : depth ≤ deeper) :
    v.Plain deeper := by
  induction h generalizing deeper with
  | null => exact .null deeper
  | boolean _ b => exact .boolean deeper b
  | integer _ low high => exact .integer deeper low high
  | string _ s => exact .string deeper s
  | array _ ih =>
    obtain ⟨n, rfl⟩ : ∃ n, deeper = n + 1 := ⟨deeper - 1, by omega⟩
    exact .array fun v hv => ih v hv (by omega)
  | object distinct _ ih =>
    obtain ⟨n, rfl⟩ : ∃ n, deeper = n + 1 := ⟨deeper - 1, by omega⟩
    exact .object distinct fun f hf => ih f hf (by omega)

/-- Strings with escapes, the extreme integers and empty containers. -/
def extremes : Value :=
  .object
    [("a \"quoted\" key\\", .array [.string "line\nbreak\t\x01\x7f é", .array [], .object []]),
      ("", .array [.number (.integer (-9223372036854775808)), .number (.integer 0),
        .number (.integer 18446744073709551615)])]

theorem plain_extremes : extremes.Plain 3 := by
  simp [extremes, plain_array_iff, plain_object_iff, plain_integer_iff, Entries.names, Plain.string]

end Value

namespace Json

/-- The blanks of a text: in front of what stands inside `depth` containers, and behind a colon. -/
structure Layout where
  line : Nat → List Char
  gap : List Char
  blank_line : ∀ depth, ∀ c ∈ line depth, isSpace c = true := by simp
  blank_gap : ∀ c ∈ gap, isSpace c = true := by simp

namespace Layout

def compact : Layout where
  line := fun _ => []
  gap := []

def pretty : Layout where
  line := Value.newline
  gap := [' ']
  blank_line := by
    intro depth c hc
    rcases List.mem_cons.mp hc with rfl | hc
    · rfl
    · rw [List.eq_of_mem_replicate hc]
      rfl
  blank_gap := by simp [isSpace]

/-- A field from the inside of its key on, up to and with the text of its content. -/
def field (l : Layout) (k : String) (text : List Char) : List Char :=
  Text.quoteChars k.toList ++ '"' :: ':' :: (l.gap ++ text)

mutual

def chars (l : Layout) (depth : Nat) : Value → List Char
  | .null => ['n', 'u', 'l', 'l']
  | .boolean b => Value.wordChars b
  | .number n => n.text.toList
  | .string s => Text.quoted s.toList
  | .array [] => ['[', ']']
  | .array (v :: rest) =>
    '[' :: (l.line (depth + 1) ++ (l.chars (depth + 1) v ++ l.itemChars depth rest))
  | .object [] => ['\x7b', '\x7d']
  | .object ((k, v) :: rest) =>
    '\x7b' :: (l.line (depth + 1) ++ '"' ::
      l.field k (l.chars (depth + 1) v ++ l.fieldChars depth rest))

def itemChars (l : Layout) (depth : Nat) : List Value → List Char
  | [] => l.line depth ++ [']']
  | v :: rest =>
    ',' :: (l.line (depth + 1) ++ (l.chars (depth + 1) v ++ l.itemChars depth rest))

def fieldChars (l : Layout) (depth : Nat) : List (String × Value) → List Char
  | [] => l.line depth ++ ['\x7d']
  | (k, v) :: rest =>
    ',' :: (l.line (depth + 1) ++ '"' ::
      l.field k (l.chars (depth + 1) v ++ l.fieldChars depth rest))

end

theorem line_compact (depth : Nat) : compact.line depth = [] := rfl

theorem gap_compact : compact.gap = [] := rfl

theorem line_pretty (depth : Nat) : pretty.line depth = Value.newline depth := rfl

theorem gap_pretty : pretty.gap = [' '] := rfl

mutual

theorem chars_compact (depth : Nat) : (v : Value) → compact.chars depth v = v.compactChars
  | .null | .boolean _ | .number _ | .string _ | .array [] | .object [] => rfl
  | .array (v :: rest) => by
    simp [chars, Value.compactChars, line_compact, chars_compact, itemChars_compact _ rest]
  | .object ((k, v) :: rest) => by
    simp [chars, field, Text.quoted, Value.compactChars, line_compact, gap_compact, chars_compact,
      fieldChars_compact _ rest]

theorem itemChars_compact (depth : Nat) : (items : List Value) →
    compact.itemChars depth items = Value.compactItems items
  | [] => rfl
  | v :: rest => by
    simp [itemChars, Value.compactItems, line_compact, chars_compact, itemChars_compact _ rest]

theorem fieldChars_compact (depth : Nat) : (fields : List (String × Value)) →
    compact.fieldChars depth fields = Value.compactFields fields
  | [] => rfl
  | (k, v) :: rest => by
    simp [fieldChars, field, Text.quoted, Value.compactFields, line_compact, gap_compact,
      chars_compact, fieldChars_compact _ rest]

end

mutual

theorem chars_pretty (depth : Nat) : (v : Value) → pretty.chars depth v = v.prettyChars depth
  | .null | .boolean _ | .number _ | .string _ | .array [] | .object [] => rfl
  | .array (v :: rest) => by
    simp [chars, Value.prettyChars, line_pretty, chars_pretty, itemChars_pretty _ rest]
  | .object ((k, v) :: rest) => by
    simp [chars, field, Text.quoted, Value.prettyChars, line_pretty, gap_pretty, chars_pretty,
      fieldChars_pretty _ rest]

theorem itemChars_pretty (depth : Nat) : (items : List Value) →
    pretty.itemChars depth items = Value.prettyItems depth items
  | [] => rfl
  | v :: rest => by
    simp [itemChars, Value.prettyItems, line_pretty, chars_pretty, itemChars_pretty _ rest]

theorem fieldChars_pretty (depth : Nat) : (fields : List (String × Value)) →
    pretty.fieldChars depth fields = Value.prettyFields depth fields
  | [] => rfl
  | (k, v) :: rest => by
    simp [fieldChars, field, Text.quoted, Value.prettyFields, line_pretty, gap_pretty, chars_pretty,
      fieldChars_pretty _ rest]

end

end Layout

end Json

end JsonExplorer
