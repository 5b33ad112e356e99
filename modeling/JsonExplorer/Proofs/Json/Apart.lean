import JsonExplorer.Proofs.Json.Tokens

/-!
Texts that tell values apart. The text of a value without blanks shows where it ends: whatever
follows it, two values without numbers have the same text only if they are the same, at any depth
(`compactChars_append_inj`). The first character tells the kind, strings are read back from their
quotes, and a comma or a bracket stands behind each part of a container.
-/

namespace JsonExplorer.Value

mutual

def Numberless : Value → Prop
  | number _ => False
  | array items => ItemsNumberless items
  | object fields => FieldsNumberless fields
  | _ => True

def ItemsNumberless : List Value → Prop
  | [] => True
  | v :: rest => Numberless v ∧ ItemsNumberless rest

def FieldsNumberless : List (String × Value) → Prop
  | [] => True
  | (_, v) :: rest => Numberless v ∧ FieldsNumberless rest

end

variable {rest rest' : List Char}

/-! ## First characters -/

/-- The characters with which values of a kind begin, numbers left out. -/
def openers : Kind → List Char
  | .null => ['n']
  | .boolean => ['t', 'f']
  | .number => []
  | .string => ['"']
  | .array => ['[']
  | .object => ['\x7b']

theorem kind_eq_of_mem_openers {c : Char} {k l : Kind} (hk : c ∈ openers k) (hl : c ∈ openers l) :
    k = l := by
  cases k <;> cases l <;> simp_all [openers]

theorem exists_opener {v : Value} (hv : v.Numberless) :
    ∃ c ∈ openers v.kind, ∃ cs, v.compactChars = c :: cs := by
  cases v with
  | null | string s => simp [compactChars, Text.quoted, openers, kind]
  | boolean b => cases b <;> simp [compactChars, wordChars, openers, kind]
  | number n => exact hv.elim
  | array items => cases items <;> simp [compactChars, openers, kind]
  | object fields => cases fields <;> simp [compactChars, openers, kind]

theorem kind_eq_of_compactChars {v w : Value} (hv : v.Numberless) (hw : w.Numberless)
    (h : v.compactChars ++ rest = w.compactChars ++ rest') : v.kind = w.kind := by
  obtain ⟨c, hc, cs, hcs⟩ := exists_opener hv
  obtain ⟨d, hd, ds, hds⟩ := exists_opener hw
  rw [hcs, hds, List.cons_append, List.cons_append, List.cons.injEq] at h
  exact kind_eq_of_mem_openers hc (h.1 ▸ hd)

/-- No value begins as a list ends. -/
theorem compactChars_ne_close {v : Value} (hv : v.Numberless) :
    v.compactChars ++ rest ≠ ']' :: rest' := by
  intro h
  obtain ⟨c, hc, cs, hcs⟩ := exists_opener hv
  rw [hcs, List.cons_append, List.cons.injEq] at h
  obtain ⟨rfl, -⟩ := h
  cases v <;> simp [openers, kind] at hc

/-! ## Parts -/

/-- A string in quotes is told from whatever is behind it. -/
theorem quoted_append_inj {s t : String}
    (h : Text.quoted s.toList ++ rest = Text.quoted t.toList ++ rest') : s = t ∧ rest = rest' := by
  have hread : ∀ (u : String) (more : List Char),
      Json.scanString ((Text.quoted u.toList ++ more).drop 1) = .ok (u, more) := fun u more => by
    simpa [Text.quoted] using Json.scanString_quoteChars u more
  have hs := hread s rest
  rw [h, hread t rest', Except.ok.injEq, Prod.mk.injEq] at hs
  exact ⟨hs.1.symm, hs.2.symm⟩

/-- But for its first character, the text of a list is what follows the first of one item more. -/
theorem cons_compactItems_of_array {v w : Value} {items others : List Value}
    (h : (array (v :: items)).compactChars ++ rest = (array (w :: others)).compactChars ++ rest') :
    compactItems (v :: items) ++ rest = compactItems (w :: others) ++ rest' := by
  simpa [compactChars, compactItems] using h

theorem cons_compactFields_of_object {f g : String × Value} {fields others : List (String × Value)}
    (h : (object (f :: fields)).compactChars ++ rest =
      (object (g :: others)).compactChars ++ rest') :
    compactFields (f :: fields) ++ rest = compactFields (g :: others) ++ rest' := by
  simpa [compactChars, compactFields] using h

mutual

/-- **A value is told from whatever is behind its text.** -/
theorem compactChars_append_inj : ∀ {v w : Value} {rest rest' : List Char}, v.Numberless →
    w.Numberless → v.compactChars ++ rest = w.compactChars ++ rest' → v = w ∧ rest = rest'
  | null, w, _, _, hv, hw, h => by
    have hkind := kind_eq_of_compactChars hv hw h
    cases w <;> simp_all [kind, compactChars]
  | boolean b, w, _, _, hv, hw, h => by
    have hkind := kind_eq_of_compactChars hv hw h
    cases w with
    | boolean c => cases b <;> cases c <;> simp_all [compactChars, wordChars]
    | _ => simp [kind] at hkind
  | number n, _, _, _, hv, _, _ => hv.elim
  | string s, w, _, _, hv, hw, h => by
    have hkind := kind_eq_of_compactChars hv hw h
    cases w with
    | string t =>
      obtain ⟨rfl, hrest⟩ := quoted_append_inj h
      exact ⟨rfl, hrest⟩
    | _ => simp [kind] at hkind
  | array items, w, _, _, hv, hw, h => by
    have hkind := kind_eq_of_compactChars hv hw h
    cases w with
    | array others =>
      cases items with
      | nil =>
        cases others with
        | nil => simpa [compactChars] using h
        | cons w others =>
          simp only [compactChars, List.cons_append, List.append_assoc, List.nil_append,
            List.cons.injEq, true_and] at h
          exact absurd h.symm (compactChars_ne_close hw.1)
      | cons v items =>
        cases others with
        | nil =>
          simp only [compactChars, List.cons_append, List.append_assoc, List.nil_append,
            List.cons.injEq, true_and] at h
          exact absurd h (compactChars_ne_close hv.1)
        | cons w others =>
          obtain ⟨hitems, hrest⟩ :=
            compactItems_append_inj hv hw (cons_compactItems_of_array h)
          exact ⟨congrArg array hitems, hrest⟩
    | _ => simp [kind] at hkind
  | object fields, w, _, _, hv, hw, h => by
    have hkind := kind_eq_of_compactChars hv hw h
    cases w with
    | object others =>
      cases fields with
      | nil => cases others <;> simp_all [compactChars, Text.quoted]
      | cons f fields =>
        cases others with
        | nil => simp [compactChars, Text.quoted] at h
        | cons g others =>
          obtain ⟨hfields, hrest⟩ :=
            compactFields_append_inj hv hw (cons_compactFields_of_object h)
          exact ⟨congrArg object hfields, hrest⟩
    | _ => simp [kind] at hkind

theorem compactItems_append_inj : ∀ {items others : List Value} {rest rest' : List Char},
    ItemsNumberless items → ItemsNumberless others →
    compactItems items ++ rest = compactItems others ++ rest' → items = others ∧ rest = rest'
  | [], others, _, _, _, _, h => by
    cases others <;> simp_all [compactItems]
  | v :: items, others, rest, rest', hv, hw, h => by
    cases others with
    | nil => simp [compactItems] at h
    | cons w others =>
      have hparts : v.compactChars ++ (compactItems items ++ rest) =
          w.compactChars ++ (compactItems others ++ rest') := by simpa [compactItems] using h
      obtain ⟨rfl, hitems⟩ := compactChars_append_inj hv.1 hw.1 hparts
      obtain ⟨rfl, hrest⟩ := compactItems_append_inj hv.2 hw.2 hitems
      exact ⟨rfl, hrest⟩

theorem compactFields_append_inj : ∀ {fields others : List (String × Value)}
    {rest rest' : List Char}, FieldsNumberless fields → FieldsNumberless others →
    compactFields fields ++ rest = compactFields others ++ rest' → fields = others ∧ rest = rest'
  | [], others, _, _, _, _, h => by
    cases others <;> simp_all [compactFields]
  | (k, v) :: fields, others, rest, rest', hv, hw, h => by
    cases others with
    | nil => simp [compactFields] at h
    | cons g others =>
      obtain ⟨l, w⟩ := g
      have hparts : Text.quoted k.toList ++ (':' :: (v.compactChars ++
            (compactFields fields ++ rest))) =
          Text.quoted l.toList ++ (':' :: (w.compactChars ++ (compactFields others ++ rest'))) := by
        simpa [compactFields] using h
      obtain ⟨rfl, hvalue⟩ := quoted_append_inj hparts
      obtain ⟨rfl, hfields⟩ := compactChars_append_inj hv.1 hw.1 (List.cons.inj hvalue).2
      obtain ⟨rfl, hrest⟩ := compactFields_append_inj hv.2 hw.2 hfields
      exact ⟨rfl, hrest⟩

end

/-- Values without numbers are the same exactly if their texts without blanks are. -/
theorem compact_inj {v w : Value} (hv : v.Numberless) (hw : w.Numberless) :
    v.compact = w.compact ↔ v = w := by
  constructor
  · intro h
    have hchars : v.compactChars ++ [] = w.compactChars ++ [] :=
      congrArg (· ++ []) (String.ofList_injective h)
    exact (compactChars_append_inj hv hw hchars).1
  · rintro rfl
    rfl

end JsonExplorer.Value
