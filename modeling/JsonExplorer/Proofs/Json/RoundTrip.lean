import JsonExplorer.Proofs.Json.Layout
import JsonExplorer.Proofs.Json.Tokens

/-!
Reading back what was written. A plain value is read back from its text in any layout, with what
follows the text left over (`reads_of_plain`): the blanks between the tokens are passed over, every
token is read whole, and each container takes one of the levels that may be open. So a document
decodes from its text laid out over lines (`decode_pretty`), and from the one without blanks
(`parse_compact`).
-/

namespace JsonExplorer

namespace Json

open Value (Plain)
open JsonExplorer.Text (digits_eq_cons)

variable {add : AddField} {l : Layout}

/-! ## What a value begins with -/

def BeginsValue : List Char → Prop
  | [] => False
  | c :: _ => c ∈ ['n', 't', 'f', '"', '-', '[', '\x7b'] ∨ c.isDigit = true

theorem BeginsValue.append {cs : List Char} (h : BeginsValue cs) (rest : List Char) :
    BeginsValue (cs ++ rest) := by
  cases cs with
  | nil => exact h.elim
  | cons c more => exact h

theorem BeginsValue.skipSpace_eq {cs : List Char} (h : BeginsValue cs) : skipSpace cs = cs := by
  cases cs with
  | nil => exact h.elim
  | cons c more =>
    refine skipSpace_cons (Bool.eq_false_iff.mpr fun hs => ?_) more
    have hc : c = ' ' ∨ c = '\n' ∨ c = '\t' ∨ c = '\r' := by simpa [isSpace, or_assoc] using hs
    rcases hc with rfl | rfl | rfl | rfl <;> simp [BeginsValue] at h

theorem not_beginsValue_close (rest : List Char) : ¬ BeginsValue (']' :: rest) := by
  simp [BeginsValue]

theorem text_integer (i : Int) : (Number.integer i).text.toList =
    if i < 0 then '-' :: Nat.toDigits 10 i.natAbs else Nat.toDigits 10 i.natAbs := by
  cases i with
  | ofNat n => simp [Number.text, Int.toString_eq_repr, Int.repr, Nat.repr]
  | negSucc m => simp [Number.text, Int.toString_eq_repr, Int.repr, Nat.repr]

theorem beginsValue_integer (i : Int) : BeginsValue (Number.integer i).text.toList := by
  rw [text_integer]
  split
  · simp [BeginsValue]
  · obtain ⟨c, ds, hds, hdigit, _⟩ := digits_eq_cons i.natAbs
    rw [hds]
    exact Or.inr hdigit

theorem beginsValue_chars {n : Nat} {v : Value} (h : Plain n v) (depth : Nat) :
    BeginsValue (l.chars depth v) := by
  cases h with
  | null | string => simp [Layout.chars, Text.quoted, BeginsValue]
  | boolean _ b => cases b <;> simp [Layout.chars, Value.wordChars, BeginsValue]
  | integer => exact beginsValue_integer _
  | @array _ items => cases items <;> simp [Layout.chars, BeginsValue]
  | @object _ fields => cases fields <;> simp [Layout.chars, BeginsValue]

/-! ## Marks between values -/

variable {gap : List Char}

theorem atEnd_append (hgap : ∀ c ∈ gap, isSpace c = true) {rest : List Char} (h : AtEnd rest) :
    AtEnd (gap ++ rest) := by
  cases gap with
  | nil => exact h
  | cons c gap => exact Or.inl (hgap c List.mem_cons_self)

theorem scanColon_cons (rest : List Char) : scanColon (':' :: rest) = .ok rest := by
  have hspace : isSpace ':' = false := by decide
  simp [scanColon, skipSpace_cons hspace]

theorem scanListComma_close (hgap : ∀ c ∈ gap, isSpace c = true) (rest : List Char) :
    scanListComma (gap ++ ']' :: rest) = .ok (false, rest) := by
  have hspace : isSpace ']' = false := by decide
  simp [scanListComma, skipSpace_append hgap, skipSpace_cons hspace]

theorem scanListComma_comma (hgap : ∀ c ∈ gap, isSpace c = true) {cs : List Char}
    (hcs : BeginsValue cs) : scanListComma (',' :: (gap ++ cs)) = .ok (true, cs) := by
  have hspace : isSpace ',' = false := by decide
  simp only [scanListComma, skipSpace_cons hspace, skipSpace_append hgap, hcs.skipSpace_eq]
  split
  · exact absurd hcs (not_beginsValue_close _)
  · exact hcs.elim
  · rfl

theorem scanObjectComma_close (hgap : ∀ c ∈ gap, isSpace c = true) (rest : List Char) :
    scanObjectComma (gap ++ '\x7d' :: rest) = .ok (false, rest) := by
  have hspace : isSpace '\x7d' = false := by decide
  simp [scanObjectComma, skipSpace_append hgap, skipSpace_cons hspace]

theorem scanObjectComma_comma (hgap : ∀ c ∈ gap, isSpace c = true) (rest : List Char) :
    scanObjectComma (',' :: (gap ++ '"' :: rest)) = .ok (true, rest) := by
  have hcomma : isSpace ',' = false := by decide
  have hquote : isSpace '"' = false := by decide
  simp [scanObjectComma, skipSpace_append hgap, skipSpace_cons hcomma, skipSpace_cons hquote]

/-- Blanks in front of a value are passed over. -/
theorem scanValue_append (hgap : ∀ c ∈ gap, isSpace c = true) {fuel : Nat} (hfuel : 0 < fuel)
    (room : Nat) (cs : List Char) :
    scanValue add fuel room (gap ++ cs) = scanValue add fuel room cs := by
  cases fuel with
  | zero => omega
  | succ fuel => simp only [scanValue, skipSpace_append hgap]

/-- A list that is not empty is read item by item. -/
theorem scanValue_bracket (hgap : ∀ c ∈ gap, isSpace c = true) {cs : List Char}
    (hcs : BeginsValue cs) (fuel : Nat) {room : Nat} (hroom : 1 < room) :
    scanValue add (fuel + 1) room ('[' :: (gap ++ cs)) =
      (scanItems add fuel (room - 1) [] cs).map fun (vs, r) => (.array vs, r) := by
  have hspace : isSpace '[' = false := by decide
  have hopen : ¬ room ≤ 1 := by omega
  have hdigit : Char.isDigit '[' = false := by decide
  simp only [scanValue, skipSpace_cons hspace, skipSpace_append hgap, hcs.skipSpace_eq, hdigit,
    hopen, Char.reduceEq, Bool.false_eq_true, if_false, if_true]
  split
  · exact absurd hcs (not_beginsValue_close _)
  · exact hcs.elim
  · rfl

/-- An object that is not empty is read field by field. -/
theorem scanValue_brace (hgap : ∀ c ∈ gap, isSpace c = true) (fuel : Nat) {room : Nat}
    (hroom : 1 < room) (rest : List Char) :
    scanValue add (fuel + 1) room ('\x7b' :: (gap ++ '"' :: rest)) =
      (scanFields add fuel (room - 1) [] rest).map fun (fs, r) => (.object fs, r) := by
  have hspace : isSpace '\x7b' = false := by decide
  have hquote : isSpace '"' = false := by decide
  have hopen : ¬ room ≤ 1 := by omega
  have hdigit : Char.isDigit '\x7b' = false := by decide
  simp only [scanValue, skipSpace_cons hspace, skipSpace_append hgap, skipSpace_cons hquote, hdigit,
    hopen, Char.reduceEq, Bool.false_eq_true, if_false, if_true]

/-! ## Leaves -/

/-- A value is read back from its text in any layout, with what follows left over, if fewer than
`room` containers are open at once. The length of the text bounds the steps. -/
def Reads (l : Layout) (add : AddField) (n : Nat) (v : Value) : Prop :=
  ∀ (depth : Nat) {fuel room : Nat} {rest : List Char}, n < room →
    (l.chars depth v).length ≤ fuel → AtEnd rest →
    scanValue add fuel room (l.chars depth v ++ rest) = .ok (v, rest)

theorem exists_succ_of_length_le {c : Char} {cs : List Char} {fuel : Nat}
    (h : (c :: cs).length ≤ fuel) : ∃ f, fuel = f + 1 ∧ cs.length ≤ f := by
  cases fuel with
  | zero => simp at h
  | succ f => exact ⟨f, rfl, by simpa using h⟩

theorem reads_null (n : Nat) : Reads l add n .null := by
  intro depth fuel room rest _ hfuel _
  obtain ⟨f, rfl, _⟩ := exists_succ_of_length_le hfuel
  rfl

theorem reads_boolean (n : Nat) (b : Bool) : Reads l add n (.boolean b) := by
  intro depth fuel room rest _ hfuel _
  cases b
  · obtain ⟨f, rfl, _⟩ := exists_succ_of_length_le hfuel
    rfl
  · obtain ⟨f, rfl, _⟩ := exists_succ_of_length_le hfuel
    rfl

theorem reads_string (n : Nat) (s : String) : Reads l add n (.string s) := by
  intro depth fuel room rest _ hfuel _
  obtain ⟨f, rfl, _⟩ := exists_succ_of_length_le hfuel
  have hspace : isSpace '"' = false := by decide
  have htext : l.chars depth (.string s) ++ rest =
      '"' :: (Text.quoteChars s.toList ++ '"' :: rest) := by
    simp [Layout.chars, Text.quoted]
  rw [htext]
  simp [scanValue, skipSpace_cons hspace, scanString_quoteChars, Except.map]

theorem integerNumber_natAbs {i : Int} (low : -0x8000000000000000 ≤ i) :
    integerNumber (decide (i < 0)) i.natAbs = .integer i := by
  unfold integerNumber
  by_cases hi : i < 0
  · have hpow : Nat.pow 2 63 = 9223372036854775808 := by decide
    have hfits : 0 < i.natAbs ∧ i.natAbs ≤ Nat.pow 2 63 := by omega
    have habs : -(i.natAbs : Int) = i := by omega
    rw [decide_eq_true hi, Bool.not_true, if_neg Bool.false_ne_true, if_pos hfits, habs]
  · have habs : (i.natAbs : Int) = i := by omega
    rw [decide_eq_false hi, Bool.not_false, if_pos rfl, habs]

/-- A digit begins a number and nothing else. -/
theorem scanValue_digit {c : Char} (h : c.isDigit = true) (fuel room : Nat) (rest : List Char) :
    scanValue add (fuel + 1) room (c :: rest) =
      (scanNumber false (c :: rest)).map fun (n, r) => (.number n, r) := by
  have hother : c ≠ 'n' ∧ c ≠ 't' ∧ c ≠ 'f' ∧ c ≠ '"' ∧ c ≠ '-' := by
    refine ⟨?_, ?_, ?_, ?_, ?_⟩ <;>
      · rintro rfl
        simp at h
  obtain ⟨hn, ht, hf, hq, hm⟩ := hother
  have hbegins : BeginsValue (c :: rest) := Or.inr h
  simp only [scanValue, hbegins.skipSpace_eq, hn, ht, hf, hq, hm, h, if_false, if_true]

theorem reads_integer (n : Nat) {i : Int} (low : -0x8000000000000000 ≤ i)
    (high : i < 0x10000000000000000) : Reads l add n (.number (.integer i)) := by
  intro depth fuel room rest _ hfuel hrest
  have hsize : UInt64.size = 18446744073709551616 := by decide
  have hfits : i.natAbs < UInt64.size := by omega
  have hnumber := scanNumber_digits hfits (decide (i < 0)) hrest
  rw [integerNumber_natAbs low] at hnumber
  have htext : l.chars depth (.number (.integer i)) = (Number.integer i).text.toList := rfl
  rw [htext, text_integer] at hfuel ⊢
  by_cases hi : i < 0
  · rw [if_pos hi] at hfuel ⊢
    obtain ⟨f, rfl, _⟩ := exists_succ_of_length_le hfuel
    have hspace : isSpace '-' = false := by decide
    rw [decide_eq_true hi] at hnumber
    simp [scanValue, skipSpace_cons hspace, hnumber, Except.map]
  · rw [if_neg hi] at hfuel ⊢
    obtain ⟨c, ds, hds, hdigit, _⟩ := digits_eq_cons i.natAbs
    rw [decide_eq_false hi] at hnumber
    rw [hds] at hnumber hfuel ⊢
    obtain ⟨f, rfl, _⟩ := exists_succ_of_length_le hfuel
    rw [List.cons_append] at hnumber ⊢
    rw [scanValue_digit hdigit, hnumber]
    rfl

/-! ## Containers -/

/-- One item is read, and what comes behind it decides how the list goes on. -/
theorem scanItems_item {n : Nat} {v : Value} (hv : Reads l add n v) (depth : Nat)
    {fuel room : Nat} (hroom : n < room) (hfuel : (l.chars depth v).length ≤ fuel)
    (acc : List Value) {after : List Char} (hafter : AtEnd after) :
    scanItems add (fuel + 1) room acc (l.chars depth v ++ after) =
      scanListComma after >>= fun (more, rest) =>
        if more then scanItems add fuel room (v :: acc) rest
        else .ok ((v :: acc).reverse, rest) := by
  rw [scanItems, hv depth hroom hfuel hafter]
  rfl

/-- The items of a list are read one by one, from the first one on. -/
theorem scanItems_chars {n : Nat} {items : List Value} {v : Value}
    (reads : ∀ w ∈ v :: items, Reads l add n w) (plain : ∀ w ∈ items, Plain n w)
    (depth : Nat) {fuel room : Nat} (hroom : n < room)
    (hfuel : (l.chars (depth + 1) v ++ l.itemChars depth items).length ≤ fuel)
    (acc : List Value) (rest : List Char) :
    scanItems add fuel room acc (l.chars (depth + 1) v ++ (l.itemChars depth items ++ rest)) =
      .ok (acc.reverse ++ v :: items, rest) := by
  induction items generalizing v fuel acc with
  | nil =>
    simp only [Layout.itemChars, List.length_append, List.length_singleton] at hfuel
    obtain ⟨f, rfl⟩ : ∃ f, fuel = f + 1 := ⟨fuel - 1, by omega⟩
    have hend : AtEnd (l.itemChars depth [] ++ rest) := by
      rw [Layout.itemChars, List.append_assoc]
      exact atEnd_append (l.blank_line depth) (by simp [AtEnd])
    have hclose : scanListComma (l.itemChars depth [] ++ rest) = .ok (false, rest) := by
      simpa [Layout.itemChars] using scanListComma_close (l.blank_line depth) rest
    rw [scanItems_item (reads v List.mem_cons_self) _ hroom (by omega) _ hend, hclose]
    simp [bind, Except.bind]
  | cons w items ih =>
    simp only [Layout.itemChars, List.length_append, List.length_cons] at hfuel
    obtain ⟨f, rfl⟩ : ∃ f, fuel = f + 1 := ⟨fuel - 1, by omega⟩
    obtain ⟨hplain, hplains⟩ := List.forall_mem_cons.mp plain
    have hend : AtEnd (l.itemChars depth (w :: items) ++ rest) := by simp [Layout.itemChars, AtEnd]
    have hcomma : scanListComma (l.itemChars depth (w :: items) ++ rest) =
        .ok (true, l.chars (depth + 1) w ++ (l.itemChars depth items ++ rest)) := by
      simpa [Layout.itemChars] using scanListComma_comma (l.blank_line (depth + 1))
        ((beginsValue_chars hplain (depth + 1)).append (l.itemChars depth items ++ rest))
    have hmore := ih (fun u hu => reads u (List.mem_cons_of_mem _ hu)) hplains
      (show (l.chars (depth + 1) w ++ l.itemChars depth items).length ≤ f by
        rw [List.length_append]
        omega) (v :: acc)
    rw [scanItems_item (reads v List.mem_cons_self) _ hroom (by omega) _ hend, hcomma]
    simpa [bind, Except.bind] using hmore

def Appends (add : AddField) : Prop :=
  ∀ (fields : List (String × Value)) (k : String) (v : Value), k ∉ Entries.names fields →
    add fields k v = fields ++ [(k, v)]

theorem appends_put : Appends Entries.put := by
  intro fields k v h
  induction fields with
  | nil => rfl
  | cons f rest ih =>
    obtain ⟨hne, hrest⟩ : k ≠ f.1 ∧ k ∉ Entries.names rest := by
      simpa [Entries.names] using h
    rw [Entries.put, if_neg (Ne.symm hne), ih hrest]
    rfl

theorem not_mem_names_of_nodup {acc fields : List (String × Value)} {k : String} {v : Value}
    (h : (Entries.names (acc ++ (k, v) :: fields)).Nodup) : k ∉ Entries.names acc := by
  have hnames : Entries.names (acc ++ (k, v) :: fields) =
      Entries.names acc ++ k :: Entries.names fields := by simp [Entries.names]
  rw [hnames] at h
  exact fun hk => (List.nodup_append.mp h).2.2 k hk k List.mem_cons_self rfl

theorem field_append (l : Layout) (k : String) (text rest : List Char) :
    l.field k text ++ rest = l.field k (text ++ rest) := by
  simp [Layout.field]

theorem length_lt_length_field (l : Layout) (k : String) (text : List Char) :
    text.length + 1 < (l.field k text).length := by
  simp only [Layout.field, List.length_append, List.length_cons]
  omega

/-- One field is read, and what comes behind it decides how the object goes on. -/
theorem scanFields_field {n : Nat} {v : Value} (appends : Appends add) (hv : Reads l add n v)
    (depth : Nat) {fuel room : Nat} (hroom : n < room) (hpos : 0 < fuel)
    (hfuel : (l.chars depth v).length ≤ fuel) {acc : List (String × Value)} {k : String}
    (hk : k ∉ Entries.names acc) {after : List Char} (hafter : AtEnd after) :
    scanFields add (fuel + 1) room acc (l.field k (l.chars depth v ++ after)) =
      scanObjectComma after >>= fun (more, rest) =>
        if more then scanFields add fuel room (acc ++ [(k, v)]) rest
        else .ok (acc ++ [(k, v)], rest) := by
  have hread : scanValue add fuel room (l.gap ++ (l.chars depth v ++ after)) = .ok (v, after) := by
    rw [scanValue_append l.blank_gap hpos]
    exact hv depth hroom hfuel hafter
  simp only [scanFields, Layout.field, scanString_quoteChars, scanColon_cons, hread,
    appends acc k v hk, bind, Except.bind]

/-- The fields of an object are read one by one, from the inside of the first key on. -/
theorem scanFields_chars {n : Nat} {fields : List (String × Value)} {k : String} {v : Value}
    (appends : Appends add) (reads : ∀ f ∈ (k, v) :: fields, Reads l add n f.2)
    (depth : Nat) {fuel room : Nat} (hroom : n < room)
    (hfuel : (l.field k (l.chars (depth + 1) v ++ l.fieldChars depth fields)).length ≤ fuel)
    {acc : List (String × Value)} (distinct : (Entries.names (acc ++ (k, v) :: fields)).Nodup)
    (rest : List Char) :
    scanFields add fuel room acc
        (l.field k (l.chars (depth + 1) v ++ (l.fieldChars depth fields ++ rest))) =
      .ok (acc ++ (k, v) :: fields, rest) := by
  induction fields generalizing k v fuel acc with
  | nil =>
    have hv : Reads l add n v := reads (k, v) List.mem_cons_self
    have hlength := length_lt_length_field l k (l.chars (depth + 1) v ++ l.fieldChars depth [])
    rw [List.length_append] at hlength
    obtain ⟨f, rfl⟩ : ∃ f, fuel = f + 1 := ⟨fuel - 1, by omega⟩
    have hend : AtEnd (l.fieldChars depth [] ++ rest) := by
      rw [Layout.fieldChars, List.append_assoc]
      exact atEnd_append (l.blank_line depth) (by simp [AtEnd])
    have hclose : scanObjectComma (l.fieldChars depth [] ++ rest) = .ok (false, rest) := by
      simpa [Layout.fieldChars] using scanObjectComma_close (l.blank_line depth) rest
    rw [scanFields_field appends hv _ hroom (by omega) (by omega)
      (not_mem_names_of_nodup distinct) hend, hclose]
    rfl
  | cons g fields ih =>
    obtain ⟨k', v'⟩ := g
    have hv : Reads l add n v := reads (k, v) List.mem_cons_self
    have hlength := length_lt_length_field l k
      (l.chars (depth + 1) v ++ l.fieldChars depth ((k', v') :: fields))
    rw [List.length_append] at hlength
    obtain ⟨f, rfl⟩ : ∃ f, fuel = f + 1 := ⟨fuel - 1, by omega⟩
    have hend : AtEnd (l.fieldChars depth ((k', v') :: fields) ++ rest) := by
      simp [Layout.fieldChars, AtEnd]
    have hcomma : scanObjectComma (l.fieldChars depth ((k', v') :: fields) ++ rest) =
        .ok (true, l.field k' (l.chars (depth + 1) v' ++ (l.fieldChars depth fields ++ rest))) := by
      simpa [Layout.fieldChars, field_append] using
        scanObjectComma_comma (l.blank_line (depth + 1))
          (l.field k' (l.chars (depth + 1) v' ++ (l.fieldChars depth fields ++ rest)))
    have hmore : scanFields add f room (acc ++ [(k, v)])
        (l.field k' (l.chars (depth + 1) v' ++ (l.fieldChars depth fields ++ rest))) =
          .ok (acc ++ [(k, v)] ++ (k', v') :: fields, rest) := by
      refine ih (fun f hf => reads f (List.mem_cons_of_mem _ hf)) ?_ (by simpa using distinct)
      have htail : (l.fieldChars depth ((k', v') :: fields)).length =
          (l.line (depth + 1)).length + 2 +
            (l.field k' (l.chars (depth + 1) v' ++ l.fieldChars depth fields)).length := by
        simp only [Layout.fieldChars, List.length_append, List.length_cons]
        omega
      omega
    rw [scanFields_field appends hv _ hroom (by omega) (by omega)
      (not_mem_names_of_nodup distinct) hend, hcomma]
    simpa [bind, Except.bind] using hmore

/-- **Plain values are read back**, in any layout. -/
theorem reads_of_plain (appends : Appends add) {n : Nat} {v : Value} (h : Plain n v) :
    Reads l add n v := by
  induction h with
  | null n => exact reads_null n
  | boolean n b => exact reads_boolean n b
  | integer n low high => exact reads_integer n low high
  | string n s => exact reads_string n s
  | @array n items plain ih =>
    intro depth fuel room rest hroom hfuel _
    cases items with
    | nil =>
      obtain ⟨f, rfl, -⟩ := exists_succ_of_length_le hfuel
      have hopen : ¬ room ≤ 1 := by omega
      have hbracket : isSpace '[' = false := by decide
      have hclose : isSpace ']' = false := by decide
      simp [Layout.chars, scanValue, skipSpace_cons hbracket, skipSpace_cons hclose, hopen]
    | cons v items =>
      obtain ⟨hplain, hplains⟩ := List.forall_mem_cons.mp plain
      obtain ⟨f, rfl, hlength⟩ := exists_succ_of_length_le hfuel
      rw [List.length_append] at hlength
      have hbegins : BeginsValue (l.chars (depth + 1) v ++ (l.itemChars depth items ++ rest)) :=
        (beginsValue_chars hplain (depth + 1)).append _
      have hitems := scanItems_chars ih hplains depth (show n < room - 1 by omega)
        (show (l.chars (depth + 1) v ++ l.itemChars depth items).length ≤ f by omega) [] rest
      rw [Layout.chars, List.cons_append, List.append_assoc, List.append_assoc,
        scanValue_bracket (l.blank_line _) hbegins f (by omega), hitems]
      rfl
  | @object n fields distinct plain ih =>
    intro depth fuel room rest hroom hfuel _
    cases fields with
    | nil =>
      obtain ⟨f, rfl, -⟩ := exists_succ_of_length_le hfuel
      have hopen : ¬ room ≤ 1 := by omega
      have hbrace : isSpace '\x7b' = false := by decide
      have hclose : isSpace '\x7d' = false := by decide
      simp [Layout.chars, scanValue, skipSpace_cons hbrace, skipSpace_cons hclose, hopen]
    | cons g fields =>
      obtain ⟨k, v⟩ := g
      obtain ⟨f, rfl, hlength⟩ := exists_succ_of_length_le hfuel
      rw [List.length_append, List.length_cons] at hlength
      have hfields := scanFields_chars appends ih depth (show n < room - 1 by omega)
        (show (l.field k (l.chars (depth + 1) v ++ l.fieldChars depth fields)).length ≤ f by omega)
        (show (Entries.names ([] ++ (k, v) :: fields)).Nodup from distinct) rest
      rw [Layout.chars, List.cons_append, List.append_assoc, List.cons_append, field_append,
        List.append_assoc, scanValue_brace (l.blank_line _) f (by omega), hfields]
      rfl

/-- A text that holds a plain value in any layout is that value. -/
theorem parseChars_chars {v : Value} (h : Plain 127 v) : parseChars (l.chars 0 v) = .ok v := by
  have hread : scanValue Entries.put (enoughFor (l.chars 0 v)) nestingLimit (l.chars 0 v ++ []) =
      .ok (v, []) :=
    reads_of_plain appends_put h 0 (by decide) (by simp only [enoughFor]; omega) trivial
  rw [List.append_nil] at hread
  rw [parseChars, hread]
  rfl

theorem parse_compact {v : Value} (h : Plain 127 v) : parse v.compact = .ok v := by
  have hchars : parseChars v.compactChars = .ok v := by
    rw [← Layout.chars_compact 0 v]
    exact parseChars_chars h
  simp [parse, Value.compact, hchars]

theorem parse_pretty {v : Value} (h : Plain 127 v) : parse v.pretty = .ok v := by
  have hchars : parseChars (v.prettyChars 0) = .ok v := by
    rw [← Layout.chars_pretty 0 v]
    exact parseChars_chars h
  simp [parse, Value.pretty, hchars]

/-- A digit is not blank, nor is any other character a value begins with. -/
theorem BeginsValue.exists_not_blank {cs : List Char} (h : BeginsValue cs) :
    cs.all Text.isBlank = false := by
  cases cs with
  | nil => exact h.elim
  | cons c rest =>
    have hc : Text.isBlank c = false := by
      rcases h with hmark | hdigit
      · have hmarks : ['n', 't', 'f', '"', '-', '[', '\x7b'].any Text.isBlank = false := by
          decide +kernel
        exact Bool.eq_false_iff.mpr (List.any_eq_false.mp hmarks c hmark)
      · have hdigits : ∀ n ∈ List.range' 48 10, Text.isBlank (Char.ofNat n) = false := by
          decide +kernel
        obtain ⟨hlow, hhigh⟩ : 48 ≤ c.toNat ∧ c.toNat ≤ 57 := Char.isDigit_iff_toNat.mp hdigit
        have hnot := hdigits c.toNat (List.mem_range'_1.mpr ⟨hlow, by omega⟩)
        rwa [Char.ofNat_toNat] at hnot
    simp [hc]

end Json

/-- The text of a plain document, laid out over lines, decodes to it. -/
theorem decode_pretty {v : Value} (h : Value.Plain 127 v) : decode v.pretty = .ok v := by
  have hbegins : Json.BeginsValue (v.prettyChars 0) := by
    rw [← Json.Layout.chars_pretty 0 v]
    exact Json.beginsValue_chars h 0
  have hblank : Text.isBlankText v.pretty = false := by
    simpa [Text.isBlankText, Value.pretty] using hbegins.exists_not_blank
  rw [decode, hblank]
  exact Json.parse_pretty h

end JsonExplorer
