import JsonExplorer.Pattern.Look

/-!
Regular expressions. They are put together by `join`, `either`, `times` and `ofSet`, which simplify:
neighbouring literals grow together, branches of single characters become a set, and what all
branches begin with is taken out in front of them. None of this changes what an expression matches,
but it changes how heavy it is.
-/

namespace JsonExplorer.Pattern

inductive Expression where
  | empty
  | literal (cs : List Char)
  | set (s : CharSet)
  | look (l : LookAt)
  | repeated (p : Expression) (least : Nat) (most : Option Nat) (lazily : Bool)
  | group (p : Expression) (number : Nat)
  | sequence (ps : List Expression)
  | choice (ps : List Expression)
  deriving Inhabited

namespace Expression

mutual

def same : Expression → Expression → Bool
  | empty, empty => true
  | literal cs, literal ds => cs == ds
  | set s, set t => s == t
  | look l, look m => l == m
  | repeated p least most lazily, repeated q least' most' lazily' =>
    p.same q && least == least' && most == most' && lazily == lazily'
  | group p n, group q m => p.same q && n == m
  | sequence ps, sequence qs => sameParts ps qs
  | choice ps, choice qs => sameParts ps qs
  | _, _ => false

def sameParts : List Expression → List Expression → Bool
  | [], [] => true
  | p :: ps, q :: qs => p.same q && sameParts ps qs
  | _, _ => false

end

def byteLength (cs : List Char) : Nat := cs.foldl (fun n c => n + c.utf8Size) 0

/-- The number of bytes that encode the character of a code point. -/
def byteLengthOf (n : Nat) : Nat := (Char.ofNat n).utf8Size

mutual

/-- The length in bytes of the shortest text that is matched; none if a part can match nothing. -/
def shortest? : Expression → Option Nat
  | empty | look _ => some 0
  | literal cs => some (byteLength cs)
  | set s => s.ranges[0]?.map fun (first, _) => byteLengthOf first
  | repeated p least _ _ => p.shortest?.map (· * least)
  | group p _ => p.shortest?
  | sequence ps => shortestOfAll? ps
  | choice ps => shortestOfSome? ps

def shortestOfAll? : List Expression → Option Nat
  | [] => some 0
  | p :: ps => do
    let n ← p.shortest?
    let m ← shortestOfAll? ps
    pure (n + m)

def shortestOfSome? : List Expression → Option Nat
  | [] => none
  | [p] => p.shortest?
  | p :: ps => do
    let n ← p.shortest?
    let m ← shortestOfSome? ps
    pure (min n m)

end

/-- Whether every match goes over at least one character. -/
def alwaysMoves (p : Expression) : Bool := p.shortest?.any (0 < ·)

mutual

/-- The length in bytes of the longest text that is matched; none if there is no limit or a part can
match nothing. -/
def longest? : Expression → Option Nat
  | empty | look _ => some 0
  | literal cs => some (byteLength cs)
  | set s => s.ranges.back?.map fun (_, last) => byteLengthOf last
  | repeated p _ most _ => most.bind fun n => p.longest?.map (· * n)
  | group p _ => p.longest?
  | sequence ps => longestOfAll? ps
  | choice ps => longestOfSome? ps

def longestOfAll? : List Expression → Option Nat
  | [] => some 0
  | p :: ps => do
    let n ← p.longest?
    let m ← longestOfAll? ps
    pure (n + m)

def longestOfSome? : List Expression → Option Nat
  | [] => none
  | [p] => p.longest?
  | p :: ps => do
    let n ← p.longest?
    let m ← longestOfSome? ps
    pure (max n m)

end

/-- Whether nothing but the empty text can be matched. -/
def neverMoves (p : Expression) : Bool := p.longest? == some 0

mutual

/-- Whether every match visibly begins at the start of the text. -/
def startsText : Expression → Bool
  | look l => l.look == .textStart
  | repeated p least _ _ => 0 < least && p.startsText
  | group p _ => p.startsText
  | sequence ps => sequenceStartsText ps
  | choice ps => allStartText ps
  | _ => false

def sequenceStartsText : List Expression → Bool
  | [] => false
  | p :: ps => p.startsText || (p.neverMoves && sequenceStartsText ps)

def allStartText : List Expression → Bool
  | [] => true
  | p :: ps => p.startsText && allStartText ps

end

mutual

/-- Whether every match visibly ends at the end of the text. -/
def endsText : Expression → Bool
  | look l => l.look == .textEnd
  | repeated p least _ _ => 0 < least && p.endsText
  | group p _ => p.endsText
  | sequence ps => (endOfSequence ps).1
  | choice ps => allEndText ps
  | _ => false

/-- Whether every match of a sequence visibly ends at the end of the text, and whether nothing but
the empty text can be matched. -/
def endOfSequence : List Expression → Bool × Bool
  | [] => (false, true)
  | p :: ps =>
    let (ends, still) := endOfSequence ps
    (ends || (still && p.endsText), still && p.neverMoves)

def allEndText : List Expression → Bool
  | [] => true
  | p :: ps => p.endsText && allEndText ps

end

def ofSet (s : CharSet) : Expression :=
  match s.ranges with
  | #[(a, b)] => if a = b then literal [Char.ofNat a] else set s
  | _ => set s

def never : Expression := set .empty

def parts : Expression → List Expression
  | empty => []
  | sequence ps => ps
  | p => [p]

def mergeLiterals : List Expression → List Expression
  | [] => []
  | literal cs :: rest =>
    match mergeLiterals rest with
    | literal ds :: more => literal (cs ++ ds) :: more
    | more => literal cs :: more
  | p :: rest => p :: mergeLiterals rest

def join (ps : List Expression) : Expression :=
  match mergeLiterals (ps.flatMap parts) with
  | [] => empty
  | [p] => p
  | ps => sequence ps

def branches : Expression → List Expression
  | choice ps => ps
  | p => [p]

def character? : Expression → Option Char
  | literal [c] => some c
  | _ => none

def set? : Expression → Option CharSet
  | set s => some s
  | _ => none

/-- The set that some branches come to, if all are single characters or all are sets. -/
def setOfBranches? (ps : List Expression) : Option CharSet :=
  match ps.mapM character? with
  | some cs => some (CharSet.ofRanges (cs.map fun c => (c.toNat, c.toNat)))
  | none => (ps.mapM set?).map fun sets => CharSet.ofRanges (sets.flatMap (·.ranges.toList))

/-- One of several branches, whatever they begin with. -/
def eitherOf (ps : List Expression) : Expression :=
  match ps.flatMap branches with
  | [] => never
  | [p] => p
  | ps =>
    match setOfBranches? ps with
    | some s => ofSet s
    | none => choice ps

def commonStart : List Expression → List Expression → List Expression
  | p :: ps, q :: qs => if p.same q then p :: commonStart ps qs else []
  | _, _ => []

def sequence? : Expression → Option (List Expression)
  | sequence ps => some ps
  | _ => none

/-- Takes out in front what all of several sequences begin with. -/
def liftStart? (ps : List Expression) : Option Expression :=
  match ps.mapM sequence? with
  | some (first :: rest) =>
    let start := rest.foldl commonStart first
    if start.isEmpty then none
    else
      let ends := (first :: rest).map fun s => join (s.drop start.length)
      some (join (start ++ [eitherOf ends]))
  | _ => none

def either (ps : List Expression) : Expression :=
  match eitherOf ps with
  | choice ps => (liftStart? ps).getD (choice ps)
  | p => p

/-- Repeats an expression. What never moves need not be tried more than once. -/
def times (p : Expression) (least : Nat) (most : Option Nat) (lazily : Bool) : Expression :=
  let (least, most) :=
    if p.neverMoves then (min least 1, some ((most.map (min · 1)).getD 1)) else (least, most)
  if least = 0 ∧ most = some 0 then empty
  else if least = 1 ∧ most = some 1 then p
  else repeated p least most lazily

end Expression

end JsonExplorer.Pattern
