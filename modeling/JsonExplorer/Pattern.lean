import JsonExplorer.Pattern.Read
import JsonExplorer.Pattern.Weight

/-!
Regular expressions as tests on text. A set of places in the text is kept as the bits of a number;
each part of an expression turns the places where it may begin into the places where it may end.
-/

namespace JsonExplorer.Pattern

/-- A set of places, as the bits of a number. -/
abbrev Places := Nat

/-- The places `i`, `i + 1`, … before characters that pass the test. -/
def placesBefore (test : Char → Bool) (i : Nat) : List Char → Places
  | [] => 0
  | c :: rest => (if test c then 1 <<< i else 0) ||| placesBefore test (i + 1) rest

/-- The places `i`, `i + 1`, … where a condition holds, `before` being the character in front. -/
def placesWhere (test : Option Char → Option Char → Bool) (i : Nat) (before : Option Char) :
    List Char → Places
  | [] => if test before none then 1 <<< i else 0
  | c :: rest =>
    (if test before (some c) then 1 <<< i else 0) ||| placesWhere test (i + 1) (some c) rest

/-- An expression as it looks to one text: `step` goes over a character at the given places, `stay`
passes the given places. -/
inductive Route where
  | nothing
  | step (here : Places)
  | stay (here : Places)
  | cat (p q : Route)
  | alt (p q : Route)
  | times (p : Route) (least : Nat) (most : Option Nat)

namespace Route

def ofLiteral (text : List Char) : List Char → Route
  | [] => nothing
  | [c] => step (placesBefore (· == c) 0 text)
  | c :: cs => cat (step (placesBefore (· == c) 0 text)) (ofLiteral text cs)

mutual

def ofExpression (text : List Char) : Expression → Route
  | .empty => nothing
  | .literal cs => ofLiteral text cs
  | .set s => step (placesBefore s.mem 0 text)
  | .look l => stay (placesWhere l.holds 0 none text)
  | .repeated p least most _ => times (ofExpression text p) least most
  | .group p _ => ofExpression text p
  | .sequence ps => ofSequence text ps
  | .choice ps => ofChoice text ps

def ofSequence (text : List Char) : List Expression → Route
  | [] => nothing
  | p :: ps => cat (ofExpression text p) (ofSequence text ps)

def ofChoice (text : List Char) : List Expression → Route
  | [] => step 0
  | p :: ps => alt (ofExpression text p) (ofChoice text ps)

end

/-- Applies `f` the given number of times, but stops when nothing is left or nothing changes. -/
def repeated (f : Places → Places) : Nat → Places → Places
  | 0, s => s
  | n + 1, s =>
    let t := f s
    if t = 0 then 0 else if t = s then s else repeated f n t

/-- The places reached by applying `f` at most the given number of times. -/
def reached (f : Places → Places) : Nat → Places → Places
  | 0, s => s
  | n + 1, s =>
    let t := s ||| f s
    if t = s then s else reached f n t

/-- The places where a route may end when it begins at one of the places `s`. Without an upper limit
the number of places, `bound`, is enough repetitions. -/
def ends (bound : Nat) : Route → Places → Places
  | nothing, s => s
  | step here, s => (s &&& here) <<< 1
  | stay here, s => s &&& here
  | cat p q, s => q.ends bound (p.ends bound s)
  | alt p q, s => p.ends bound s ||| q.ends bound s
  | times p least most, s =>
    let more := match most with
      | some n => n - least
      | none => bound
    reached (p.ends bound) more (repeated (p.ends bound) least s)

end Route

def Expression.matchesIn (p : Expression) (text : List Char) : Bool :=
  let places := text.length + 1
  (Route.ofExpression text p).ends places (Nat.pow 2 places - 1) != 0

/-- The test whether an expression matches somewhere in a text; none if the expression cannot be
read or is too heavy. -/
def compile? (caseSensitive : Bool) (text : String) : Option (String → Bool) := do
  let p ← read? { ignoreCase := !caseSensitive } text.toList
  if p.isAffordable then some fun s => p.matchesIn s.toList else none

end JsonExplorer.Pattern
