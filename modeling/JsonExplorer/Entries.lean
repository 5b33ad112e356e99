/-!
Ordered entries: a list of named things that remembers the order in which names first came in.
Writing to a name already present replaces its content and keeps its place; a new name goes last.
Objects of a document and the registry of declared shapes are both such lists.
-/

namespace JsonExplorer

abbrev Entries (α : Type) := List (String × α)

namespace Entries

variable {α : Type}

def get? : Entries α → String → Option α
  | [], _ => none
  | (k, v) :: rest, name => if k = name then some v else get? rest name

/-- Writes `value` under `name`: in place if the name is known, at the end otherwise. -/
def put : Entries α → String → α → Entries α
  | [], name, value => [(name, value)]
  | (k, v) :: rest, name, value =>
    if k = name then (k, value) :: rest else (k, v) :: put rest name value

def putAll (es : Entries α) (more : List (String × α)) : Entries α :=
  more.foldl (fun acc e => acc.put e.1 e.2) es

def ofList (pairs : List (String × α)) : Entries α := putAll [] pairs

def names (es : Entries α) : List String := es.map (·.1)

theorem get?_put_self (es : Entries α) (name : String) (value : α) :
    (es.put name value).get? name = some value := by
  induction es with
  | nil => simp [put, get?]
  | cons e rest ih =>
    obtain ⟨k, v⟩ := e
    by_cases h : k = name <;> simp [put, get?, h, ih]

theorem get?_put_of_ne (es : Entries α) {name other : String} (value : α) (h : name ≠ other) :
    (es.put name value).get? other = es.get? other := by
  induction es with
  | nil => simp [put, get?, h]
  | cons e rest ih =>
    obtain ⟨k, v⟩ := e
    by_cases hk : k = name
    · subst hk
      simp [put, get?, h]
    · simp [put, hk, get?, ih]

theorem names_put (es : Entries α) (name : String) (value : α) :
    (es.put name value).names = if name ∈ es.names then es.names else es.names ++ [name] := by
  induction es with
  | nil => simp [put, names]
  | cons e rest ih =>
    obtain ⟨k, v⟩ := e
    by_cases hk : k = name
    · simp [put, names, hk]
    · have hk' : ¬ name = k := fun h => hk h.symm
      by_cases hm : name ∈ names rest
      · simp only [put, hk, if_false, names, List.map_cons] at ih ⊢
        simp only [names] at hm
        simp [ih, hm]
      · simp only [put, hk, if_false, names, List.map_cons] at ih ⊢
        simp only [names] at hm
        simp [ih, hm, hk']

theorem nodup_names_put {es : Entries α} (h : es.names.Nodup) (name : String) (value : α) :
    (es.put name value).names.Nodup := by
  rw [names_put]
  split
  · exact h
  · rename_i hm
    exact List.nodup_append.2 ⟨h, by simp, by simp; rintro a ha rfl; exact hm ha⟩

end Entries

end JsonExplorer
