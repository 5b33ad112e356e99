import JsonExplorer.Exchange.Decode
import JsonExplorer.Proofs.Json.RoundTrip

/-!
Records read back from their text without blanks. The readers of single fields give back what was
written (`scanNat_compact`, `scanTexts_compact`, `scanValue_compact`); `Takes` is what a reader of
fields makes of a list of them one by one, and `Takes.scanObject_compact` that it makes the same of
the text of the whole object.
-/

namespace JsonExplorer.Json

open Value (Plain)
open JsonExplorer.Text (digits_eq_cons)

/-! ## Contents of fields -/

theorem scanValue_compact {add : AddField} (appends : Appends add) {n : Nat} {v : Value}
    (h : Plain n v) {room : Nat} (hroom : n < room) {after : List Char} (hafter : AtEnd after) :
    scanValue add (enoughFor (v.compactChars ++ after)) room (v.compactChars ++ after) =
      .ok (v, after) := by
  rw [← Layout.chars_compact 0 v]
  refine reads_of_plain appends h 0 hroom ?_ hafter
  rw [enoughFor, List.length_append]
  omega

theorem compactChars_nat (n : Nat) :
    (Value.number (.integer n)).compactChars = Nat.toDigits 10 n := by
  have htext := text_integer n
  rw [if_neg (by omega), Int.natAbs_natCast] at htext
  exact htext

/-- Whatever the number is called, one that fits 64 bits is read back. -/
theorem scanNat_compact {n : Nat} (h : n < UInt64.size) (expected : String) {after : List Char}
    (hafter : AtEnd after) :
    scanNat expected ((Value.number (.integer n)).compactChars ++ after) = .ok (n, after) := by
  have hread := scanNumber_digits h false hafter
  have hnat : natOf expected (.number (integerNumber false n)) = .ok n := by
    simp [natOf, integerNumber]
  obtain ⟨c, ds, hds, hdigit, -⟩ := digits_eq_cons n
  rw [compactChars_nat]
  rw [hds, List.cons_append] at hread ⊢
  have hbegins : BeginsValue (c :: (ds ++ after)) := Or.inr hdigit
  have hminus : c ≠ '-' := by
    rintro rfl
    simp at hdigit
  simp only [scanNat, hbegins.skipSpace_eq, hminus, hdigit, false_or, if_true, if_false, hread,
    bind, Except.bind, hnat]

theorem scanText_quoted (s : String) (after : List Char) :
    scanText (Text.quoted s.toList ++ after) = .ok (s, after) := by
  have hquote : isSpace '"' = false := by decide
  rw [Text.quoted, List.cons_append, List.append_assoc]
  simp only [scanText, skipSpace_cons hquote]
  exact scanString_quoteChars s after

/-- The strings of a list are read one by one, from the first one on. -/
theorem scanTextsFrom_compact (s : String) (more : List String) {fuel : Nat}
    (hfuel : more.length < fuel) (acc : List String) (after : List Char) :
    scanTextsFrom fuel acc
        (Text.quoted s.toList ++ (Value.compactItems (more.map .string) ++ after)) =
      .ok (acc.reverse ++ s :: more, after) := by
  induction more generalizing s fuel acc with
  | nil =>
    obtain ⟨f, rfl⟩ : ∃ f, fuel = f + 1 := ⟨fuel - 1, by omega⟩
    have hclose : scanListComma (']' :: after) = .ok (false, after) :=
      @scanListComma_close [] (by simp) after
    rw [scanTextsFrom, scanText_quoted]
    simp [Value.compactItems, bind, Except.bind, hclose]
  | cons t more ih =>
    obtain ⟨f, rfl⟩ : ∃ f, fuel = f + 1 := ⟨fuel - 1, by omega⟩
    have hcomma :
        scanListComma (Value.compactItems (.string t :: more.map .string) ++ after) =
          .ok (true, Text.quoted t.toList ++ (Value.compactItems (more.map .string) ++ after)) := by
      have hbegins : BeginsValue (Text.quoted t.toList ++
          (Value.compactItems (more.map .string) ++ after)) := by simp [BeginsValue, Text.quoted]
      simpa [Value.compactItems, Value.compactChars] using
        @scanListComma_comma [] (by simp) _ hbegins
    rw [scanTextsFrom, scanText_quoted]
    simpa [bind, Except.bind, hcomma] using ih t (by simpa using hfuel) (s :: acc)

theorem length_lt_length_compactItems (items : List Value) :
    items.length < (Value.compactItems items).length := by
  induction items with
  | nil => simp [Value.compactItems]
  | cons v rest ih =>
    simp only [Value.compactItems, List.length_cons, List.length_append]
    omega

theorem scanTexts_compact (ss : List String) (after : List Char) :
    scanTexts ((Value.array (ss.map .string)).compactChars ++ after) = .ok (ss, after) := by
  have hopen : isSpace '[' = false := by decide
  cases ss with
  | nil =>
    have hclose : isSpace ']' = false := by decide
    simp [Value.compactChars, scanTexts, skipSpace_cons hopen, skipSpace_cons hclose]
  | cons s more =>
    have hquote : isSpace '"' = false := by decide
    have hlength := length_lt_length_compactItems (more.map .string)
    rw [List.length_map] at hlength
    have hfuel : more.length < (Text.quoted s.toList ++
        (Value.compactItems (more.map .string) ++ after)).length + 1 := by
      simp only [List.length_append]
      omega
    have hread := scanTextsFrom_compact s more hfuel [] after
    rw [Text.quoted, List.cons_append] at hread
    simp only [List.map_cons, Value.compactChars, List.cons_append, List.append_assoc, scanTexts,
      skipSpace_cons hopen, Text.quoted, skipSpace_cons hquote]
    simpa using hread

/-! ## Fields of an object -/

section Takes

variable {σ : Type} {known : σ → String → Bool}
  {field : σ → String → List Char → Scan (σ × List Char)}

/-- `Takes known field s fields t`: taking in the fields in order leads from `s` to `t`. None of
them is known when its turn comes, and each is read off the front of its text. -/
inductive Takes (known : σ → String → Bool)
    (field : σ → String → List Char → Scan (σ × List Char)) :
    σ → List (String × Value) → σ → Prop
  | nil (s : σ) : Takes known field s [] s
  | cons {s t u : σ} {k : String} {v : Value} {rest : List (String × Value)}
      (new : known s k = false)
      (read : ∀ after, AtEnd after → field s k (v.compactChars ++ after) = .ok (t, after))
      (more : Takes known field t rest u) : Takes known field s ((k, v) :: rest) u

theorem length_lt_length_compactFields (fields : List (String × Value)) :
    fields.length < (Value.compactFields fields).length := by
  induction fields with
  | nil => simp [Value.compactFields]
  | cons f rest ih =>
    simp only [Value.compactFields, List.length_cons, List.length_append]
    omega

/-- From the inside of the first key on, the fields are taken in one by one. -/
theorem Takes.scanRecord_compact {s u : σ} {k : String} {v : Value}
    {fields : List (String × Value)} (h : Takes known field s ((k, v) :: fields) u) {fuel : Nat}
    (hfuel : fields.length < fuel) (after : List Char) :
    scanRecord known field fuel s (Text.quoteChars k.toList ++ '"' :: ':' ::
      (v.compactChars ++ (Value.compactFields fields ++ after))) = .ok (u, after) := by
  induction fields generalizing s k v fuel with
  | nil =>
    obtain ⟨f, rfl⟩ : ∃ f, fuel = f + 1 := ⟨fuel - 1, by omega⟩
    rcases h with _ | ⟨new, read, more⟩
    cases more
    have hclose : scanObjectComma ('\x7d' :: after) = .ok (false, after) :=
      @scanObjectComma_close [] (by simp) after
    have hread := read ('\x7d' :: after) (by simp [AtEnd])
    simp [scanRecord, scanString_quoteChars, new, scanColon_cons, Value.compactFields, hread,
      hclose, bind, Except.bind]
  | cons g fields ih =>
    obtain ⟨f, rfl⟩ : ∃ f, fuel = f + 1 := ⟨fuel - 1, by omega⟩
    obtain ⟨k', v'⟩ := g
    rcases h with _ | ⟨new, read, more⟩
    have hend : AtEnd (Value.compactFields ((k', v') :: fields) ++ after) := by
      simp [Value.compactFields, AtEnd]
    have hcomma : scanObjectComma (Value.compactFields ((k', v') :: fields) ++ after) =
        .ok (true, Text.quoteChars k'.toList ++ '"' :: ':' ::
          (v'.compactChars ++ (Value.compactFields fields ++ after))) := by
      simpa [Value.compactFields, Text.quoted] using @scanObjectComma_comma [] (by simp)
        (Text.quoteChars k'.toList ++ '"' :: ':' ::
          (v'.compactChars ++ (Value.compactFields fields ++ after)))
    have hmore := ih more (show fields.length < f by simpa using hfuel)
    simp [scanRecord, scanString_quoteChars, new, scanColon_cons, read _ hend, hcomma, hmore,
      bind, Except.bind]

/-- Behind its opening brace, an object is taken in as its fields are. -/
theorem Takes.scanObject_compact {s u : σ} {fields : List (String × Value)}
    (h : Takes known field s fields u) (after : List Char) :
    scanObject known field s ((Value.object fields).compactChars.tail ++ after) =
      .ok (u, after) := by
  cases fields with
  | nil =>
    have hclose : isSpace '\x7d' = false := by decide
    cases h
    simp [Value.compactChars, scanObject, skipSpace_cons hclose]
  | cons g fields =>
    obtain ⟨k, v⟩ := g
    have hquote : isSpace '"' = false := by decide
    have hlength := length_lt_length_compactFields fields
    have hfuel : fields.length < (Text.quoteChars k.toList ++ '"' :: ':' ::
        (v.compactChars ++ (Value.compactFields fields ++ after))).length + 1 := by
      simp only [List.length_append, List.length_cons]
      omega
    have hread := h.scanRecord_compact hfuel after
    simpa [Value.compactChars, Text.quoted, scanObject, skipSpace_cons hquote] using hread

end Takes

end JsonExplorer.Json
