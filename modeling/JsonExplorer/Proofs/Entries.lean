import JsonExplorer.Entries

/-!
Writing many entries. Names keep the places of their first writes (`names_putAll`) and hold what was
last written to them (`get?_putAll`). So a list of writes may be carried out on an empty list first
and the result written where it belongs afterwards (`putAll_putAll`), and carrying it out once more
changes nothing (`putAll_putAll_self`).
-/

namespace JsonExplorer.Entries

variable {α : Type}

theorem putAll_append (es : Entries α) (first rest : List (String × α)) :
    es.putAll (first ++ rest) = (es.putAll first).putAll rest :=
  List.foldl_append

theorem names_append_subset {first rest : List (String × α)} {known : List String} :
    names (first ++ rest) ⊆ known ↔ names first ⊆ known ∧ names rest ⊆ known := by
  simp only [names, List.map_append, List.append_subset]

theorem mem_names_put {es : Entries α} {name other : String} {value : α} :
    other ∈ (es.put name value).names ↔ other = name ∨ other ∈ es.names := by
  rw [names_put]
  split
  · rename_i hm
    exact ⟨Or.inr, fun h => h.elim (fun he => he ▸ hm) id⟩
  · rw [List.mem_append, List.mem_singleton, or_comm]

/-- A write leaves nothing but itself and what was there. -/
theorem mem_put {es : Entries α} {name : String} {value : α} {e : String × α}
    (h : e ∈ es.put name value) : e = (name, value) ∨ e ∈ es := by
  induction es with
  | nil => exact Or.inl (List.mem_singleton.mp h)
  | cons f rest ih =>
    by_cases hf : f.1 = name
    · simp only [put, hf, ↓reduceIte, List.mem_cons] at h
      exact h.imp_right (List.mem_cons_of_mem f)
    · simp only [put, hf, ↓reduceIte, List.mem_cons] at h
      rcases h with rfl | h
      · exact Or.inr List.mem_cons_self
      · exact (ih h).imp_right (List.mem_cons_of_mem f)

/-- Writes leave the names that were there and those written to. -/
theorem mem_names_putAll {es : Entries α} {more : List (String × α)} {name : String} :
    name ∈ (es.putAll more).names ↔ name ∈ es.names ∨ name ∈ names more := by
  induction more generalizing es with
  | nil => simp [putAll, names]
  | cons e rest ih =>
    show name ∈ ((es.put e.1 e.2).putAll rest).names ↔ _
    have hcons : name ∈ names (e :: rest) ↔ name = e.1 ∨ name ∈ names rest := List.mem_cons
    rw [ih, mem_names_put, hcons, or_assoc, or_left_comm]

/-- Writes leave nothing but themselves and what was there. -/
theorem mem_putAll {es : Entries α} {more : List (String × α)} {e : String × α}
    (h : e ∈ es.putAll more) : e ∈ es ∨ e ∈ more := by
  induction more generalizing es with
  | nil => exact Or.inl h
  | cons f rest ih =>
    rcases ih h with he | he
    · rcases mem_put he with rfl | he
      · exact Or.inr List.mem_cons_self
      · exact Or.inl he
    · exact Or.inr (List.mem_cons_of_mem f he)

/-- The last write to a name counts. -/
theorem put_put_self (es : Entries α) (name : String) (first last : α) :
    (es.put name first).put name last = es.put name last := by
  induction es with
  | nil => simp [put]
  | cons e rest ih =>
    obtain ⟨k, v⟩ := e
    by_cases hk : k = name <;> simp [put, hk, ih]

/-- A write to a name that is there already may be moved in front of a write to another name. -/
theorem put_put_comm {es : Entries α} {name other : String} (hne : other ≠ name)
    (hm : name ∈ es.names) (value content : α) :
    (es.put other content).put name value = (es.put name value).put other content := by
  induction es with
  | nil => simp [names] at hm
  | cons e rest ih =>
    obtain ⟨k, v⟩ := e
    by_cases hk : k = name
    · subst hk
      simp [put, Ne.symm hne]
    · have hm : name ∈ names rest := by
        rcases List.mem_cons.mp hm with he | hm
        · exact absurd he.symm hk
        · exact hm
      by_cases ho : k = other
      · subst ho
        simp [put, hk]
      · simp [put, hk, ho, ih hm]

/-- Writes to other names do not move a write to a name that is there already. -/
theorem putAll_put_of_not_mem {es : Entries α} {name : String} (hm : name ∈ es.names)
    {more : List (String × α)} (hn : name ∉ names more) (value : α) :
    (es.put name value).putAll more = (es.putAll more).put name value := by
  induction more generalizing es with
  | nil => rfl
  | cons e rest ih =>
    obtain ⟨k, v⟩ := e
    obtain ⟨hk, hrest⟩ : name ≠ k ∧ name ∉ names rest := by
      simpa [names] using hn
    show ((es.put name value).put k v).putAll rest = ((es.put k v).putAll rest).put name value
    rw [← put_put_comm (Ne.symm hk) hm]
    exact ih (mem_names_put.mpr (Or.inr hm)) hrest

/-- Writing out entries after a further write to them is the further write after writing them
out. -/
theorem putAll_put (es : Entries α) {more : Entries α} (hd : more.names.Nodup) (name : String)
    (value : α) : es.putAll (more.put name value) = (es.putAll more).put name value := by
  induction more generalizing es with
  | nil => rfl
  | cons e rest ih =>
    obtain ⟨k, v⟩ := e
    obtain ⟨hk, hrest⟩ : k ∉ names rest ∧ (names rest).Nodup := List.nodup_cons.mp hd
    by_cases h : k = name
    · -- `k` stands nowhere in `rest`, so the further write to it can be moved to the end
      subst h
      have hput : put ((k, v) :: rest) k value = (k, value) :: rest := by simp [put]
      have hin : k ∈ (es.put k v).names := mem_names_put.mpr (Or.inl rfl)
      calc
        es.putAll (put ((k, v) :: rest) k value) = (es.put k value).putAll rest := by rw [hput]; rfl
        _ = ((es.put k v).put k value).putAll rest := by rw [put_put_self]
        _ = ((es.put k v).putAll rest).put k value := putAll_put_of_not_mem hin hk value
    · have hput : put ((k, v) :: rest) name value = (k, v) :: put rest name value := by
        simp [put, h]
      rw [hput]
      exact ih (es.put k v) hrest

/-- **Writes may be gathered first.** Writing out the outcome of some writes is carrying them out in
place. -/
theorem putAll_putAll (es : Entries α) {gathered : Entries α} (hd : gathered.names.Nodup)
    (more : List (String × α)) :
    es.putAll (gathered.putAll more) = (es.putAll gathered).putAll more := by
  induction more generalizing gathered with
  | nil => rfl
  | cons e rest ih =>
    show es.putAll ((gathered.put e.1 e.2).putAll rest) =
      ((es.putAll gathered).put e.1 e.2).putAll rest
    rw [ih (nodup_names_put hd e.1 e.2), putAll_put es hd]

theorem putAll_ofList (es : Entries α) (more : List (String × α)) :
    es.putAll (ofList more) = es.putAll more :=
  putAll_putAll es (by simp [names]) more

/-- A name that is written with one content only holds it afterwards. -/
theorem get?_putAll_of_agree {es : Entries α} {more : List (String × α)} {name : String}
    {value : α} (hm : (name, value) ∈ more ∨ es.get? name = some value)
    (ha : ∀ other, (name, other) ∈ more → other = value) :
    (es.putAll more).get? name = some value := by
  induction more generalizing es with
  | nil => exact hm.resolve_left (by simp)
  | cons e rest ih =>
    obtain ⟨k, v⟩ := e
    show ((es.put k v).putAll rest).get? name = some value
    refine ih ?_ fun other ho => ha other (List.mem_cons_of_mem _ ho)
    by_cases hk : k = name
    · subst hk
      have hv : v = value := ha v List.mem_cons_self
      exact Or.inr (hv ▸ get?_put_self es k v)
    · rw [get?_put_of_ne es v hk]
      refine hm.imp_left fun hmem => ?_
      simpa [Ne.symm hk] using hmem

theorem names_append (first rest : List (String × α)) :
    names (first ++ rest) = names first ++ names rest :=
  List.map_append

theorem get?_eq_none_iff {es : Entries α} {name : String} :
    es.get? name = none ↔ name ∉ es.names := by
  induction es with
  | nil => simp [get?, names]
  | cons e rest ih =>
    obtain ⟨k, v⟩ := e
    have hcons : names ((k, v) :: rest) = k :: names rest := rfl
    by_cases hk : k = name
    · subst hk
      simp [get?, hcons]
    · simp [get?, hk, hcons, ih, Ne.symm hk]

theorem get?_append (first rest : Entries α) (name : String) :
    get? (first ++ rest) name = (get? first name).or (get? rest name) := by
  induction first with
  | nil => rfl
  | cons e more ih =>
    obtain ⟨k, v⟩ := e
    by_cases hk : k = name <;> simp [get?, hk, ih]

/-- **Places.** Names already there keep their places, and new ones follow in the order in which
they are first written. -/
theorem names_putAll (es : Entries α) (more : List (String × α)) :
    (es.putAll more).names = es.names ++ ((names more).filter (· ∉ es.names)).eraseDups := by
  induction more generalizing es with
  | nil => simp [putAll, names]
  | cons e rest ih =>
    obtain ⟨k, v⟩ := e
    have hcons : names ((k, v) :: rest) = k :: names rest := rfl
    have hstep : es.putAll ((k, v) :: rest) = (es.put k v).putAll rest := rfl
    rw [hstep, ih, names_put, hcons]
    by_cases hk : k ∈ es.names
    · simp [hk]
    · -- later writes to `k` are left out on both sides, by either filter
      have hlater : (names rest).filter (· ∉ es.names ++ [k]) =
          ((names rest).filter (· ∉ es.names)).filter fun n => !n == k := by
        rw [List.filter_filter]
        refine List.filter_congr fun n _ => ?_
        have hbeq : (n == k) = decide (n = k) := rfl
        simp [hbeq, not_or, and_comm]
      rw [if_neg hk, hlater, List.filter_cons_of_pos (by simpa using hk), List.eraseDups_cons,
        List.append_assoc, List.singleton_append]

theorem nodup_names_putAll {es : Entries α} (h : es.names.Nodup) (more : List (String × α)) :
    (es.putAll more).names.Nodup := by
  induction more generalizing es with
  | nil => exact h
  | cons e rest ih => exact ih (nodup_names_put h e.1 e.2)

/-- **Contents.** A name holds what was last written to it, if anything was. -/
theorem get?_putAll (es : Entries α) (more : List (String × α)) (name : String) :
    (es.putAll more).get? name = (get? more.reverse name).or (es.get? name) := by
  induction more generalizing es with
  | nil => rfl
  | cons e rest ih =>
    obtain ⟨k, v⟩ := e
    have hstep : es.putAll ((k, v) :: rest) = (es.put k v).putAll rest := rfl
    rw [hstep, ih, List.reverse_cons, get?_append, Option.or_assoc]
    by_cases hk : k = name
    · subst hk
      simp [get?_put_self, get?]
    · simp [get?_put_of_ne _ _ hk, get?, hk]

/-- Entries are told apart by the order of their names or by what is held under one of them. -/
theorem ext_get? {es fs : Entries α} (hnames : es.names = fs.names) (hd : fs.names.Nodup)
    (h : ∀ name, es.get? name = fs.get? name) : es = fs := by
  induction es generalizing fs with
  | nil => exact (List.map_eq_nil_iff.mp hnames.symm).symm
  | cons e rest ih =>
    obtain ⟨k, v⟩ := e
    match fs with
    | [] => simp [names] at hnames
    | (l, w) :: more =>
      obtain ⟨rfl, hmore⟩ : k = l ∧ names rest = names more := List.cons.inj hnames
      obtain ⟨hk, hdmore⟩ : k ∉ names more ∧ (names more).Nodup := List.nodup_cons.mp hd
      obtain rfl : v = w := by simpa [get?] using h k
      have hrest : rest = more := ih hmore hdmore fun name => by
        by_cases hn : k = name
        · subst hn
          rw [get?_eq_none_iff.mpr (hmore ▸ hk), get?_eq_none_iff.mpr hk]
        · simpa [get?, hn] using h name
      rw [hrest]

/-- **Once is enough.** Carrying out the same writes again changes nothing. -/
theorem putAll_putAll_self (es : Entries α) (more : List (String × α)) :
    (es.putAll more).putAll more = es.putAll more := by
  have hd : (ofList more).names.Nodup := nodup_names_putAll (by simp [names]) more
  have hknown : ∀ name ∈ names more, name ∈ (ofList more).names := fun name hm =>
    mem_names_putAll.mpr (Or.inr hm)
  -- the writes gathered on their own have distinct names, and writing them again finds each
  have hself : (ofList more).putAll more = ofList more := by
    refine ext_get? ?_ hd fun name => ?_
    · rw [names_putAll, List.filter_eq_nil_iff.mpr fun name hm => by simpa using hknown name hm]
      simp
    · have hget : (ofList more).get? name = get? more.reverse name := by
        rw [ofList, get?_putAll]
        simp [get?]
      rw [get?_putAll, hget, Option.or_self]
  calc
    (es.putAll more).putAll more = (es.putAll (ofList more)).putAll more := by rw [putAll_ofList]
    _ = es.putAll ((ofList more).putAll more) := (putAll_putAll es hd more).symm
    _ = es.putAll more := by rw [hself, putAll_ofList]

end JsonExplorer.Entries
