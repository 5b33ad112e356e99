import JsonExplorer.Proofs.Shape.Legible

/-!
The text of a shape tells the shape. Two legible shapes with one text in front of whatever may
follow are the same, and so is what follows (`Tells`): this is proved one constructor at a time,
with any number of brackets behind the text (`TellsArrays`), and for members, fields and
declarations in a row. So no two inferences are written out alike (`rendering_unambiguous`).
-/

namespace JsonExplorer.Shape

/-! ## Texts as characters -/

def chars (level : Nat) (s : Shape) : List Char := (s.render level).toList

def memberChars (level : Nat) (members : List Shape) : List Char :=
  (renderMembers level members).toList

def fieldChars (level : Nat) (fields : List (String × Shape)) : List Char :=
  (renderFields level fields).toList

def padding (level : Nat) : List Char := (indent level).toList

def bodyChars (level : Nat) : List (String × Shape) → List Char
  | [] => ['}']
  | fields => '\n' :: (fieldChars level fields ++ (padding level ++ ['}']))

variable {level : Nat}

theorem padding_succ (level : Nat) : padding (level + 1) = padding level ++ [' ', ' '] := by
  simp only [padding, indent, String.toList_ofList]
  rw [show 2 * (level + 1) = 2 * level + 2 from by omega, List.replicate_add]
  rfl

theorem chars_array {element : Shape} (h : element.isUnion = false) :
    chars level (array element) = chars level element ++ ['[', ']'] := by
  simp [chars, render, h]

theorem chars_array_union {element : Shape} (h : element.isUnion = true) :
    chars level (array element) = '(' :: (chars level element ++ [')', '[', ']']) := by
  simp [chars, render, h]

theorem chars_union (members : List Shape) :
    chars level (union members) = memberChars level members := by
  simp only [chars, memberChars, render]

theorem chars_object (fields : List (String × Shape)) :
    chars level (object fields) = '{' :: bodyChars level fields := by
  cases fields <;> simp [chars, render, bodyChars, fieldChars, padding]

theorem memberChars_singleton (s : Shape) : memberChars level [s] = chars level s := by
  simp only [chars, memberChars, renderMembers]

theorem memberChars_cons (s : Shape) {rest : List Shape} (h : rest ≠ []) :
    memberChars level (s :: rest) =
      chars level s ++ (' ' :: '|' :: ' ' :: memberChars level rest) := by
  cases rest with
  | nil => exact absurd rfl h
  | cons t more => simp [chars, memberChars, renderMembers]

theorem fieldChars_nil : fieldChars level [] = [] := by
  simp [fieldChars, renderFields]

theorem fieldChars_cons (key : String) (s : Shape) (rest : List (String × Shape)) :
    fieldChars level ((key, s) :: rest) = padding level ++ (' ' :: ' ' :: (key.toList ++
      (':' :: ' ' :: (chars (level + 1) s ++ (';' :: '\n' :: fieldChars level rest))))) := by
  have hpad := padding_succ level
  simp only [padding] at hpad
  simp [fieldChars, renderFields, chars, padding, hpad]

/-! ## Where texts end -/

/-- The text goes on neither with a word nor with a bracket. -/
def Breaks (rest : List Char) : Prop :=
  ∀ c, rest.head? = some c → isWordChar c = false ∧ c ≠ '['

/-- Nor does it go on with a further member. -/
def Stops (rest : List Char) : Prop :=
  ∀ c, rest.head? = some c → isWordChar c = false ∧ c ≠ '[' ∧ c ≠ ' '

theorem Stops.breaks {rest : List Char} (h : Stops rest) : Breaks rest :=
  fun c hc => ⟨(h c hc).1, (h c hc).2.1⟩

theorem not_word_cons {c : Char} (h : isWordChar c = false) (rest : List Char) :
    ∀ d, (c :: rest).head? = some d → isWordChar d = false := by
  intro d hd
  obtain rfl : c = d := Option.some.inj hd
  exact h

theorem breaks_cons {c : Char} (h : isWordChar c = false ∧ c ≠ '[') (rest : List Char) :
    Breaks (c :: rest) := by
  intro d hd
  obtain rfl : c = d := Option.some.inj hd
  exact h

theorem stops_cons {c : Char} (h : isWordChar c = false ∧ c ≠ '[' ∧ c ≠ ' ') (rest : List Char) :
    Stops (c :: rest) := by
  intro d hd
  obtain rfl : c = d := Option.some.inj hd
  exact h

def brackets : Nat → List Char
  | 0 => []
  | n + 1 => '[' :: ']' :: brackets n

def arrays : Nat → Shape → Shape
  | 0, s => s
  | n + 1, s => arrays n (array s)

theorem brackets_append_inj {m n : Nat} {rest rest' : List Char} (hrest : Breaks rest)
    (hrest' : Breaks rest') (h : brackets m ++ rest = brackets n ++ rest') :
    m = n ∧ rest = rest' := by
  induction m generalizing n with
  | zero =>
    cases n with
    | zero => exact ⟨rfl, h⟩
    | succ n =>
      obtain rfl : rest = '[' :: ']' :: (brackets n ++ rest') := h
      exact absurd rfl (hrest _ rfl).2
  | succ m ih =>
    cases n with
    | zero =>
      obtain rfl : '[' :: ']' :: (brackets m ++ rest) = rest' := h
      exact absurd rfl (hrest' _ rfl).2
    | succ n =>
      obtain ⟨rfl, hr⟩ := ih (List.cons.inj (List.cons.inj h).2).2
      exact ⟨rfl, hr⟩

/-- Words are told apart by where they end. -/
theorem word_append_inj {v w rest rest' : List Char} (hv : ∀ c ∈ v, isWordChar c = true)
    (hw : ∀ c ∈ w, isWordChar c = true)
    (hrest : ∀ c, rest.head? = some c → isWordChar c = false)
    (hrest' : ∀ c, rest'.head? = some c → isWordChar c = false)
    (h : v ++ rest = w ++ rest') : v = w ∧ rest = rest' := by
  induction v generalizing w with
  | nil =>
    cases w with
    | nil => exact ⟨rfl, h⟩
    | cons c w =>
      obtain rfl : rest = c :: (w ++ rest') := h
      simp [hrest c rfl] at hw
  | cons c v ih =>
    obtain ⟨hc, hv⟩ := List.forall_mem_cons.mp hv
    cases w with
    | nil =>
      obtain rfl : c :: (v ++ rest) = rest' := h
      simp [hrest' c rfl] at hc
    | cons d w =>
      obtain ⟨rfl, htail⟩ := List.cons.inj h
      obtain ⟨rfl, hr⟩ := ih hv (List.forall_mem_cons.mp hw).2 htail
      exact ⟨rfl, hr⟩

theorem Word.append_inj {v w : String} (hv : Word v) (hw : Word w) {rest rest' : List Char}
    (hrest : ∀ c, rest.head? = some c → isWordChar c = false)
    (hrest' : ∀ c, rest'.head? = some c → isWordChar c = false)
    (h : v.toList ++ rest = w.toList ++ rest') : v = w ∧ rest = rest' := by
  obtain ⟨hword, hr⟩ := word_append_inj hv.isWordChar_of_mem hw.isWordChar_of_mem hrest hrest' h
  exact ⟨String.toList_inj.mp hword, hr⟩

theorem not_word_of_brackets {n : Nat} {rest : List Char} (h : Breaks rest) :
    ∀ c, (brackets n ++ rest).head? = some c → isWordChar c = false := by
  cases n with
  | zero => exact fun c hc => (h c hc).1
  | succ n => exact not_word_cons (by decide) _

/-! ## Shapes by the beginning of their text -/

def word? : Shape → Option String
  | string => some "string"
  | number => some "number"
  | boolean => some "boolean"
  | null => some "null"
  | unknown => some "unknown"
  | ref name => some name
  | _ => none

theorem chars_of_word? {s : Shape} {w : String} (h : s.word? = some w) :
    chars level s = w.toList := by
  cases s <;> simp_all [word?, chars, render]

theorem word_of_word? {s : Shape} {w : String} (hs : Legible s) (h : s.word? = some w) :
    Word w := by
  cases s with
  | ref name =>
    obtain rfl : name = w := Option.some.inj h
    exact (legible_ref_iff.mp hs).1
  | array | object | union => cases h
  | _ =>
    obtain rfl := Option.some.inj h
    decide

/-- The shape a word stands for. -/
def ofWord (w : String) : Shape :=
  if w = "string" then string
  else if w = "number" then number
  else if w = "boolean" then boolean
  else if w = "null" then null
  else if w = "unknown" then unknown
  else ref w

theorem ofWord_of_word? {s : Shape} {w : String} (hs : Legible s) (h : s.word? = some w) :
    ofWord w = s := by
  cases s with
  | ref name =>
    obtain rfl : name = w := Option.some.inj h
    have hname := (legible_ref_iff.mp hs).2
    simp only [keywords, List.mem_cons, List.not_mem_nil, or_false, not_or] at hname
    simp [ofWord, hname]
  | array | object | union => cases h
  | _ =>
    obtain rfl := Option.some.inj h
    rfl

/-- A name is no keyword, so different shapes are different words. -/
theorem eq_of_word? {s t : Shape} {w : String} (hs : Legible s) (ht : Legible t)
    (h : s.word? = some w) (h' : t.word? = some w) : s = t := by
  rw [← ofWord_of_word? hs h, ofWord_of_word? ht h']

/-- Neither a union nor an array of anything but a union. -/
def Core : Shape → Prop
  | union _ => False
  | array element => element.isUnion = true
  | _ => True

theorem Core.cases {s : Shape} (h : Core s) : (∃ w, s.word? = some w) ∨
    (∃ element, s = array element ∧ element.isUnion = true) ∨ ∃ fields, s = object fields := by
  cases s <;> simp_all [Core, word?]

/-- A shape that is no union is arrays of a core. -/
theorem exists_core (level : Nat) : ∀ (s : Shape) (n : Nat), s.isUnion = false → Legible s →
    ∃ t m, Core t ∧ Legible t ∧ arrays m t = arrays n s ∧
      chars level t ++ brackets m = chars level s ++ brackets n
  | array element, n, _, hs => by
    cases helement : element.isUnion with
    | true => exact ⟨array element, n, helement, hs, rfl, rfl⟩
    | false =>
      obtain ⟨t, m, hcore, ht, harrays, hchars⟩ :=
        exists_core level element (n + 1) helement (legible_array_iff.mp hs)
      refine ⟨t, m, hcore, ht, harrays, ?_⟩
      rw [hchars, chars_array helement, List.append_assoc]
      rfl
  | object fields, n, _, hs => ⟨object fields, n, trivial, hs, rfl, rfl⟩
  | ref name, n, _, hs => ⟨ref name, n, trivial, hs, rfl, rfl⟩
  | string, n, _, hs => ⟨string, n, trivial, hs, rfl, rfl⟩
  | number, n, _, hs => ⟨number, n, trivial, hs, rfl, rfl⟩
  | boolean, n, _, hs => ⟨boolean, n, trivial, hs, rfl, rfl⟩
  | null, n, _, hs => ⟨null, n, trivial, hs, rfl, rfl⟩
  | unknown, n, _, hs => ⟨unknown, n, trivial, hs, rfl, rfl⟩

/-! ## One constructor at a time -/

/-- The text of the shape tells it, and where the text ends. -/
def Tells (level : Nat) (s : Shape) : Prop := ∀ t rest rest', Legible t → Stops rest → Stops rest' →
  chars level s ++ rest = chars level t ++ rest' → s = t ∧ rest = rest'

/-- So does the text of arrays of it, however many. -/
def TellsArrays (level : Nat) (s : Shape) : Prop := ∀ t m n rest rest', Core t → Legible t →
  Breaks rest → Breaks rest' →
  chars level s ++ (brackets m ++ rest) = chars level t ++ (brackets n ++ rest') →
  arrays m s = arrays n t ∧ rest = rest'

def TellsMembers (level : Nat) (members : List Shape) : Prop := ∀ others rest rest', others ≠ [] →
  (∀ t ∈ others, t.isUnion = false ∧ Legible t) → Stops rest → Stops rest' →
  memberChars level members ++ rest = memberChars level others ++ rest' →
  members = others ∧ rest = rest'

def TellsFields (level : Nat) (fields : List (String × Shape)) : Prop := ∀ others rest rest',
  (∀ f ∈ others, Word f.1 ∧ Legible f.2) →
  fieldChars level fields ++ (padding level ++ '}' :: rest) =
    fieldChars level others ++ (padding level ++ '}' :: rest') →
  fields = others ∧ rest = rest'

/-- The first character of a word is neither of those that open other shapes. -/
theorem exists_cons_of_word {w : String} (h : Word w) :
    ∃ c rest, w.toList = c :: rest ∧ c ≠ '(' ∧ c ≠ '{' := by
  cases hw : w.toList with
  | nil => exact absurd hw h.toList_ne_nil
  | cons c rest =>
    have hc := h.isWordChar_of_mem c (hw ▸ List.mem_cons_self)
    refine ⟨c, rest, rfl, ?_, ?_⟩
    · rintro rfl
      cases hc
    · rintro rfl
      cases hc

theorem tellsArrays_word {s : Shape} {w : String} (hs : Legible s) (h : s.word? = some w) :
    TellsArrays level s := by
  intro t m n rest rest' hcore ht hrest hrest' he
  have hword := word_of_word? hs h
  rw [chars_of_word? h] at he
  rcases hcore.cases with ⟨w', hw'⟩ | ⟨element, rfl, hunion⟩ | ⟨fields, rfl⟩
  · rw [chars_of_word? hw'] at he
    obtain ⟨rfl, hbrackets⟩ := hword.append_inj (word_of_word? ht hw') (not_word_of_brackets hrest)
      (not_word_of_brackets hrest') he
    obtain ⟨rfl, hr⟩ := brackets_append_inj hrest hrest' hbrackets
    rw [eq_of_word? hs ht h hw']
    exact ⟨rfl, hr⟩
  · obtain ⟨c, more, hc, hparen, -⟩ := exists_cons_of_word hword
    rw [hc, chars_array_union hunion] at he
    exact absurd (List.cons.inj he).1 hparen
  · obtain ⟨c, more, hc, -, hbrace⟩ := exists_cons_of_word hword
    rw [hc, chars_object] at he
    exact absurd (List.cons.inj he).1 hbrace

theorem TellsArrays.array {element : Shape} (hunion : element.isUnion = false)
    (h : TellsArrays level element) : TellsArrays level (array element) := by
  intro t m n rest rest' hcore ht hrest hrest' he
  refine h t (m + 1) n rest rest' hcore ht hrest hrest' ?_
  rw [← he, chars_array hunion, List.append_assoc]
  rfl

theorem Tells.array {element : Shape} (hunion : element.isUnion = true) (h : Tells level element) :
    TellsArrays level (array element) := by
  intro t m n rest rest' hcore ht hrest hrest' he
  rw [chars_array_union hunion] at he
  rcases hcore.cases with ⟨w, hw⟩ | ⟨element', rfl, hunion'⟩ | ⟨fields, rfl⟩
  · obtain ⟨c, more, hc, hparen, -⟩ := exists_cons_of_word (word_of_word? ht hw)
    rw [chars_of_word? hw, hc] at he
    exact absurd (List.cons.inj he).1.symm hparen
  · rw [chars_array_union hunion'] at he
    simp only [List.cons_append, List.append_assoc, List.cons.injEq, true_and] at he
    obtain ⟨rfl, hclose⟩ := h element' _ _ (legible_array_iff.mp ht) (stops_cons (by decide) _)
      (stops_cons (by decide) _) he
    simp only [List.cons.injEq, true_and, List.nil_append] at hclose
    obtain ⟨rfl, hr⟩ := brackets_append_inj hrest hrest' hclose
    exact ⟨rfl, hr⟩
  · rw [chars_object] at he
    simp at he

theorem TellsFields.object {fields : List (String × Shape)} (h : TellsFields level fields) :
    TellsArrays level (object fields) := by
  intro t m n rest rest' hcore ht hrest hrest' he
  rw [chars_object] at he
  rcases hcore.cases with ⟨w, hw⟩ | ⟨element, rfl, hunion⟩ | ⟨others, rfl⟩
  · obtain ⟨c, more, hc, -, hbrace⟩ := exists_cons_of_word (word_of_word? ht hw)
    rw [chars_of_word? hw, hc] at he
    exact absurd (List.cons.inj he).1.symm hbrace
  · rw [chars_array_union hunion] at he
    simp at he
  · rw [chars_object] at he
    have hbody := (List.cons.inj he).2
    obtain ⟨rfl, hbrackets⟩ : fields = others ∧ brackets m ++ rest = brackets n ++ rest' := by
      cases fields with
      | nil =>
        cases others with
        | nil => exact ⟨rfl, (List.cons.inj hbody).2⟩
        | cons f more => simp [bodyChars] at hbody
      | cons f more =>
        cases others with
        | nil => simp [bodyChars] at hbody
        | cons g others =>
          refine h _ _ _ (legible_object_iff.mp ht) ?_
          simpa [bodyChars] using hbody
    obtain ⟨rfl, hr⟩ := brackets_append_inj hrest hrest' hbrackets
    exact ⟨rfl, hr⟩

/-- With no brackets behind it, whatever it is compared with. -/
theorem TellsArrays.apart {s : Shape} (h : TellsArrays level s) {t : Shape}
    (hunion : t.isUnion = false) (ht : Legible t) {rest rest' : List Char} (hrest : Breaks rest)
    (hrest' : Breaks rest') (he : chars level s ++ rest = chars level t ++ rest') :
    s = t ∧ rest = rest' := by
  obtain ⟨c, m, hcore, hc, harrays, hchars⟩ := exists_core level t 0 hunion ht
  have hend : brackets 0 = [] := rfl
  rw [hend, List.append_nil] at hchars
  have he' : chars level s ++ (brackets 0 ++ rest) = chars level c ++ (brackets m ++ rest') := by
    rw [hend, List.nil_append, he, ← hchars, List.append_assoc]
  obtain ⟨hs, hr⟩ := h c 0 m rest rest' hcore hc hrest hrest' he'
  exact ⟨hs.trans harrays, hr⟩

/-- Behind a member the list is over, or a bar stands. -/
theorem exists_bar (level : Nat) (s : Shape) (rest : List Shape) {text : List Char}
    (htext : Stops text) : ∃ more, memberChars level (s :: rest) ++ text = chars level s ++ more ∧
      Breaks more ∧ (rest = [] ∧ more = text ∨
        rest ≠ [] ∧ more = ' ' :: '|' :: ' ' :: (memberChars level rest ++ text)) := by
  cases rest with
  | nil => exact ⟨text, by rw [memberChars_singleton], htext.breaks, Or.inl ⟨rfl, rfl⟩⟩
  | cons t others =>
    refine ⟨_, ?_, breaks_cons (by decide) _, Or.inr ⟨by simp, rfl⟩⟩
    rw [memberChars_cons s (by simp)]
    simp

theorem TellsArrays.members {s : Shape} {rest : List Shape} (h : TellsArrays level s)
    (hrest : rest ≠ [] → TellsMembers level rest) : TellsMembers level (s :: rest) := by
  intro others text text' hne hothers htext htext' he
  obtain ⟨t, more, rfl⟩ := List.exists_cons_of_ne_nil hne
  obtain ⟨⟨hunion, ht⟩, hmore⟩ := List.forall_mem_cons.mp hothers
  obtain ⟨after, hs, hbreaks, hafter⟩ := exists_bar level s rest htext
  obtain ⟨after', ht', hbreaks', hafter'⟩ := exists_bar level t more htext'
  rw [hs, ht'] at he
  obtain ⟨rfl, rfl⟩ := h.apart hunion ht hbreaks hbreaks' he
  rcases hafter with ⟨rfl, rfl⟩ | ⟨hrestne, hbar⟩ <;>
    rcases hafter' with ⟨rfl, hr⟩ | ⟨hmorene, hbar'⟩
  · exact ⟨rfl, hr⟩
  · -- a list that is over cannot go on with a bar
    subst hbar'
    exact absurd rfl (htext _ rfl).2.2
  · subst hr hbar
    exact absurd rfl (htext' _ rfl).2.2
  · rw [hbar] at hbar'
    simp only [List.cons.injEq, true_and] at hbar'
    obtain ⟨rfl, hr⟩ := hrest hrestne _ _ _ hmorene hmore htext htext' hbar'
    exact ⟨rfl, hr⟩

/-- The members of a union, and any other shape by itself. -/
def alternatives : Shape → List Shape
  | union members => members
  | s => [s]

theorem chars_alternatives (s : Shape) : chars level s = memberChars level (alternatives s) := by
  cases s with
  | union members => exact chars_union members
  | _ => exact (memberChars_singleton _).symm

theorem alternatives_legible {s : Shape} (h : Legible s) : alternatives s ≠ [] ∧
    ∀ t ∈ alternatives s, t.isUnion = false ∧ Legible t := by
  cases s with
  | union members =>
    obtain ⟨htwo, hmembers⟩ := legible_union_iff.mp h
    exact ⟨by rintro rfl; simp at htwo, hmembers⟩
  | _ => exact ⟨by simp [alternatives], by simpa [alternatives, isUnion] using h⟩

def ofAlternatives : List Shape → Shape
  | [s] => s
  | members => union members

/-- A union is never mistaken for its only member. -/
theorem ofAlternatives_alternatives {s : Shape} (h : Legible s) :
    ofAlternatives (alternatives s) = s := by
  cases s with
  | union members =>
    have htwo := (legible_union_iff.mp h).1
    match members with
    | [] | _ :: _ :: _ => rfl
    | [only] => simp at htwo
  | _ => rfl

theorem TellsMembers.tells {s : Shape} (hs : Legible s) (h : TellsMembers level (alternatives s)) :
    Tells level s := by
  intro t rest rest' ht hrest hrest' he
  rw [chars_alternatives, chars_alternatives t] at he
  obtain ⟨hne, hall⟩ := alternatives_legible ht
  obtain ⟨hmembers, hr⟩ := h _ _ _ hne hall hrest hrest' he
  refine ⟨?_, hr⟩
  rw [← ofAlternatives_alternatives hs, hmembers, ofAlternatives_alternatives ht]

theorem TellsArrays.tells {s : Shape} (hs : Legible s) (hunion : s.isUnion = false)
    (h : TellsArrays level s) : Tells level s := by
  have hself : alternatives s = [s] := by
    cases s with
    | union members => cases hunion
    | _ => rfl
  exact TellsMembers.tells hs (hself ▸ h.members (by simp))

theorem tellsFields_nil : TellsFields level [] := by
  intro others rest rest' _ he
  cases others with
  | nil => exact ⟨rfl, (List.cons.inj (List.append_cancel_left he)).2⟩
  | cons f more =>
    -- where the brace stands a field would begin with a blank
    rw [fieldChars_nil, List.nil_append, fieldChars_cons, List.append_assoc] at he
    have hbrace := List.append_cancel_left he
    simp at hbrace

theorem TellsFields.cons {key : String} {s : Shape} {fields : List (String × Shape)}
    (hkey : Word key) (hs : Tells (level + 1) s) (h : TellsFields level fields) :
    TellsFields level ((key, s) :: fields) := by
  intro others rest rest' hothers he
  rw [fieldChars_cons, List.append_assoc] at he
  cases others with
  | nil =>
    rw [fieldChars_nil, List.nil_append] at he
    have hbrace := List.append_cancel_left he
    simp at hbrace
  | cons f more =>
    obtain ⟨key', t⟩ := f
    obtain ⟨⟨hkey', ht⟩, hmore⟩ := List.forall_mem_cons.mp hothers
    rw [fieldChars_cons, List.append_assoc] at he
    have hfield := List.append_cancel_left he
    simp only [List.cons_append, List.append_assoc, List.cons.injEq, true_and] at hfield
    obtain ⟨rfl, hcolon⟩ := hkey.append_inj hkey' (not_word_cons (by decide) _)
      (not_word_cons (by decide) _) hfield
    simp only [List.cons.injEq, true_and] at hcolon
    obtain ⟨rfl, hline⟩ := hs t _ _ ht (stops_cons (by decide) _)
      (stops_cons (by decide) _) hcolon
    simp only [List.cons.injEq, true_and] at hline
    obtain ⟨rfl, hr⟩ := h more rest rest' hmore hline
    exact ⟨rfl, hr⟩

/-! ## All shapes -/

mutual

theorem tells (level : Nat) : ∀ s : Shape, Legible s →
    Tells level s ∧ (s.isUnion = false → TellsArrays level s)
  | union members, h => by
    obtain ⟨htwo, hmembers⟩ := legible_union_iff.mp h
    have hne : members ≠ [] := by rintro rfl; simp at htwo
    exact ⟨TellsMembers.tells h (tellsMembers level members hne hmembers), by simp [isUnion]⟩
  | array element, h => by
    obtain ⟨htells, harrays⟩ := tells level element (legible_array_iff.mp h)
    have harray : TellsArrays level (array element) := by
      cases hunion : element.isUnion with
      | true => exact htells.array hunion
      | false => exact (harrays hunion).array hunion
    exact ⟨harray.tells h rfl, fun _ => harray⟩
  | object fields, h => by
    have hobject := (tellsFields level fields (legible_object_iff.mp h)).object
    exact ⟨hobject.tells h rfl, fun _ => hobject⟩
  | string, h | number, h | boolean, h | null, h | unknown, h | ref _, h => by
    have hword : TellsArrays level _ := tellsArrays_word h rfl
    exact ⟨hword.tells h rfl, fun _ => hword⟩

theorem tellsMembers (level : Nat) : ∀ members : List Shape, members ≠ [] →
    (∀ s ∈ members, s.isUnion = false ∧ Legible s) → TellsMembers level members
  | [], hne, _ => absurd rfl hne
  | s :: rest, _, h => by
    obtain ⟨⟨hunion, hs⟩, hrest⟩ := List.forall_mem_cons.mp h
    exact ((tells level s hs).2 hunion).members fun hne => tellsMembers level rest hne hrest

theorem tellsFields (level : Nat) : ∀ fields : List (String × Shape),
    (∀ f ∈ fields, Word f.1 ∧ Legible f.2) → TellsFields level fields
  | [], _ => tellsFields_nil
  | (key, s) :: rest, h => by
    obtain ⟨⟨hkey, hs⟩, hrest⟩ := List.forall_mem_cons.mp h
    exact (tellsFields level rest hrest).cons hkey (tells (level + 1) s hs).1

end

/-! ## Declarations in a row -/

def declarationChars (d : String × Shape) : List Char := (d.2.declaration d.1).toList

theorem declarationChars_object {name : String} {s : Shape} (h : s.isObject = true) :
    declarationChars (name, s) =
      'i' :: ("nterface ".toList ++ (name.toList ++ ' ' :: chars 0 s)) := by
  simp [declarationChars, declaration, h, chars]

theorem declarationChars_alias {name : String} {s : Shape} (h : s.isObject = false) :
    declarationChars (name, s) =
      't' :: ("ype ".toList ++ (name.toList ++ ' ' :: '=' :: ' ' :: (chars 0 s ++ [';']))) := by
  simp [declarationChars, declaration, h, chars]

/-- A declaration ends where the text does or the line. -/
theorem declarationChars_append_inj {d e : String × Shape} (hd : Word d.1 ∧ Legible d.2)
    (he : Word e.1 ∧ Legible e.2) {rest rest' : List Char}
    (hrest : ∀ c, rest.head? = some c → c = '\n') (hrest' : ∀ c, rest'.head? = some c → c = '\n')
    (h : declarationChars d ++ rest = declarationChars e ++ rest') : d = e ∧ rest = rest' := by
  obtain ⟨name, s⟩ := d
  obtain ⟨name', t⟩ := e
  have hstops : Stops rest := fun c hc => by rw [hrest c hc]; decide
  have hstops' : Stops rest' := fun c hc => by rw [hrest' c hc]; decide
  cases hs : s.isObject <;> cases ht : t.isObject
  · rw [declarationChars_alias hs, declarationChars_alias ht] at h
    simp only [List.cons_append, List.append_assoc, List.nil_append, List.cons.injEq, true_and,
      List.append_cancel_left_eq] at h
    obtain ⟨rfl, hshape⟩ := hd.1.append_inj he.1 (not_word_cons (by decide) _)
      (not_word_cons (by decide) _) h
    simp only [List.cons.injEq, true_and] at hshape
    obtain ⟨rfl, hr⟩ := (tells 0 s hd.2).1 t _ _ he.2 (stops_cons (by decide) _)
      (stops_cons (by decide) _) hshape
    exact ⟨rfl, (List.cons.inj hr).2⟩
  · rw [declarationChars_alias hs, declarationChars_object ht] at h
    simp at h
  · rw [declarationChars_object hs, declarationChars_alias ht] at h
    simp at h
  · rw [declarationChars_object hs, declarationChars_object ht] at h
    simp only [List.cons_append, List.append_assoc, List.cons.injEq, true_and,
      List.append_cancel_left_eq] at h
    obtain ⟨rfl, hshape⟩ := hd.1.append_inj he.1 (not_word_cons (by decide) _)
      (not_word_cons (by decide) _) h
    simp only [List.cons.injEq, true_and] at hshape
    obtain ⟨rfl, hr⟩ := (tells 0 s hd.2).1 t _ _ he.2 hstops hstops' hshape
    exact ⟨rfl, hr⟩

def declarationsChars (ds : List (String × Shape)) : List Char :=
  ("\n\n".intercalate (ds.map fun d => d.2.declaration d.1)).toList

/-- Behind a declaration the text ends, or the line does and more declarations follow. -/
theorem exists_line (d : String × Shape) (rest : List (String × Shape)) :
    ∃ more, declarationsChars (d :: rest) = declarationChars d ++ more ∧
      (∀ c, more.head? = some c → c = '\n') ∧
      (rest = [] ∧ more = [] ∨ rest ≠ [] ∧ more = '\n' :: '\n' :: declarationsChars rest) := by
  cases rest with
  | nil => exact ⟨[], by simp [declarationsChars, declarationChars], by simp, Or.inl ⟨rfl, rfl⟩⟩
  | cons e others =>
    refine ⟨_, ?_, by simp [eq_comm], Or.inr ⟨by simp, rfl⟩⟩
    simp [declarationsChars, declarationChars, String.intercalate_cons_cons]

theorem declarationsChars_inj {ds es : List (String × Shape)}
    (hds : ∀ d ∈ ds, Word d.1 ∧ Legible d.2) (hes : ∀ e ∈ es, Word e.1 ∧ Legible e.2)
    (hdne : ds ≠ []) (hene : es ≠ []) (h : declarationsChars ds = declarationsChars es) :
    ds = es := by
  induction ds generalizing es with
  | nil => exact absurd rfl hdne
  | cons d rest ih =>
    obtain ⟨e, more, rfl⟩ := List.exists_cons_of_ne_nil hene
    obtain ⟨hd, hrest⟩ := List.forall_mem_cons.mp hds
    obtain ⟨he, hmore⟩ := List.forall_mem_cons.mp hes
    obtain ⟨after, hd', hline, hafter⟩ := exists_line d rest
    obtain ⟨after', he', hline', hafter'⟩ := exists_line e more
    rw [hd', he'] at h
    obtain ⟨rfl, rfl⟩ := declarationChars_append_inj hd he hline hline' h
    rcases hafter with ⟨rfl, rfl⟩ | ⟨hrestne, hbreak⟩ <;>
      rcases hafter' with ⟨rfl, hend⟩ | ⟨hmorene, hbreak'⟩
    · rfl
    · cases hbreak'
    · rw [hbreak] at hend
      cases hend
    · rw [hbreak] at hbreak'
      simp only [List.cons.injEq, true_and] at hbreak'
      rw [ih hrest hmore hrestne hmorene hbreak']

/-- **Rendering is unambiguous.** At any level, two legible shapes with the same text are the same.
Under one name for the root, two legible inferences with the same text have the same root and the
same registry, in the same order. And what is inferred of any document whose keys are words is
legible, with no keyword among the names in the registry. -/
theorem rendering_unambiguous :
    (∀ (level : Nat) (s t : Shape), Legible s → Legible t → s.render level = t.render level →
      s = t) ∧
    (∀ (rootName : String) (i j : Inference), Word rootName → i.Legible → j.Legible →
      i.render rootName = j.render rootName → i = j) ∧
    ∀ document : Value, document.KeysWords → (Inference.ofValue document).Legible ∧
      ∀ e ∈ (Inference.ofValue document).registry, NameWord e.1 := by
  refine ⟨fun level s t hs ht h => ?_, fun rootName i j hname hi hj h => ?_,
    fun document hkeys => legible_inferred hkeys⟩
  · have hend : Stops [] := fun c hc => nomatch hc
    refine ((tells level s hs).1 t [] [] ht hend hend ?_).1
    rw [List.append_nil, List.append_nil, chars, h, chars]
  · have hdeclared : ∀ k : Inference, k.Legible →
        ∀ d ∈ k.declared rootName, Word d.1 ∧ Legible d.2 := by
      intro k hk d hd
      rcases List.mem_append.mp hd with hd | hd
      · exact hk.2 d hd
      · obtain rfl := List.mem_singleton.mp hd
        exact ⟨hname, hk.1⟩
    have hrow : i.declared rootName = j.declared rootName :=
      declarationsChars_inj (hdeclared i hi) (hdeclared j hj) (by simp [Inference.declared])
        (by simp [Inference.declared]) (congrArg String.toList h)
    obtain ⟨hregistry, hlast⟩ := List.append_singleton_inj.mp hrow
    obtain ⟨root, registry⟩ := i
    obtain ⟨root', registry'⟩ := j
    obtain rfl : registry = registry' := hregistry
    obtain rfl : root = root' := (Prod.mk.inj hlast).2
    rfl

def mixedList : Shape := array (union [array number, object [("user_1", array (ref "User"))]])

def eitherList : Shape :=
  union [array (array number), array (object [("user_1", array (ref "User"))])]

def listsInference (first second : String) : Inference where
  root := object []
  registry := [(first, mixedList), (second, eitherList)]

theorem rendering_unambiguous_lists :
    Legible mixedList ∧ Legible eitherList ∧ mixedList.render 1 ≠ eitherList.render 1 ∧
      Word "Root" ∧ (listsInference "A" "B").Legible ∧ (listsInference "B" "A").Legible ∧
      (listsInference "A" "B").render "Root" ≠ (listsInference "B" "A").render "Root" ∧
      accounts.KeysWords ∧ (Inference.ofValue accounts).Legible := by
  have hmixed : Legible mixedList := by decide
  have heither : Legible eitherList := by decide
  have hword : Word "Root" := by decide
  have hab : (listsInference "A" "B").Legible := by decide
  have hba : (listsInference "B" "A").Legible := by decide
  have hkeys : accounts.KeysWords := by decide +kernel
  obtain ⟨hshapes, hinferences, hdocuments⟩ := rendering_unambiguous
  exact ⟨hmixed, heither, fun h => absurd (hshapes 1 _ _ hmixed heither h) (by decide),
    hword, hab, hba, fun h => absurd (hinferences "Root" _ _ hword hab hba h) (by decide),
    hkeys, (hdocuments accounts hkeys).1⟩

end JsonExplorer.Shape
