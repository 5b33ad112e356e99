import JsonExplorer.Entries

/-!
Shapes: the types inferred from documents. A nested object is not written out where it occurs but
declared under a name in a registry and referred to by that name. Two shapes are equal when they
are built alike, the order of fields and of union members included.
-/

namespace JsonExplorer

inductive Shape where
  | string
  | number
  | boolean
  | null
  | unknown
  | array (element : Shape)
  | object (fields : List (String × Shape))
  | union (members : List Shape)
  | ref (name : String)
  deriving Inhabited

namespace Shape

def isUnion : Shape → Bool
  | union _ => true
  | _ => false

mutual

def same : Shape → Shape → Bool
  | string, string => true
  | number, number => true
  | boolean, boolean => true
  | null, null => true
  | unknown, unknown => true
  | array a, array b => same a b
  | object a, object b => sameFields a b
  | union a, union b => sameMembers a b
  | ref a, ref b => a == b
  | _, _ => false

def sameFields : List (String × Shape) → List (String × Shape) → Bool
  | [], [] => true
  | (k, a) :: as, (l, b) :: bs => k == l && same a b && sameFields as bs
  | _, _ => false

def sameMembers : List Shape → List Shape → Bool
  | [], [] => true
  | a :: as, b :: bs => same a b && sameMembers as bs
  | _, _ => false

end

mutual

theorem same_iff : ∀ a b : Shape, same a b = true ↔ a = b
  | string, b => by cases b <;> simp [same]
  | number, b => by cases b <;> simp [same]
  | boolean, b => by cases b <;> simp [same]
  | null, b => by cases b <;> simp [same]
  | unknown, b => by cases b <;> simp [same]
  | array a, b => by cases b <;> simp [same, same_iff a]
  | object a, b => by cases b <;> simp [same, sameFields_iff a]
  | union a, b => by cases b <;> simp [same, sameMembers_iff a]
  | ref a, b => by cases b <;> simp [same]

theorem sameFields_iff : ∀ as bs : List (String × Shape), sameFields as bs = true ↔ as = bs
  | [], bs => by cases bs <;> simp [sameFields]
  | (k, a) :: as, bs => by
    cases bs with
    | nil => simp [sameFields]
    | cons b bs =>
      obtain ⟨l, b⟩ := b
      simp [sameFields, same_iff a, sameFields_iff as]

theorem sameMembers_iff : ∀ as bs : List Shape, sameMembers as bs = true ↔ as = bs
  | [], bs => by cases bs <;> simp [sameMembers]
  | a :: as, bs => by
    cases bs with
    | nil => simp [sameMembers]
    | cons b bs => simp [sameMembers, same_iff a, sameMembers_iff as]

end

instance : DecidableEq Shape := fun a b => decidable_of_iff (same a b = true) (same_iff a b)

end Shape

/-- Declared shapes by name, in the order in which the names were first declared. -/
abbrev Registry := Entries Shape

namespace Registry

def absorb (r other : Registry) : Registry := Entries.putAll r other

end Registry

/-- A root shape with the declarations it refers to. -/
structure Inference where
  root : Shape
  registry : Registry
  deriving DecidableEq

end JsonExplorer
