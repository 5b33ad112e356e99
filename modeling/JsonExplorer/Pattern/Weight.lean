import Std.Data.HashMap
import JsonExplorer.Pattern.Encoding
import JsonExplorer.Pattern.Expression

/-!
The weight of an expression: the bytes taken by an automaton that reads a text byte by byte, in
which repetitions are written out. There are two of them, one that reads forwards and marks the
groups, and one that reads backwards and does not; both have to keep to a limit. Only the number of
states and of what they point to is kept, and building stops as soon as it is too much.
-/

namespace JsonExplorer.Pattern

def weightLimit : Nat := 10 * Nat.pow 2 20

/-- What an automaton consists of so far: its states, which are numbered in the order in which they
are made, and the bytes taken by the pointers of those that have a list of them. -/
structure Tally where
  states : Nat := 0
  pointers : Nat := 0
  deriving DecidableEq, Repr

namespace Tally

def weight (t : Tally) : Nat := 32 * t.states + t.pointers

/-- Adds states with their pointers, unless that is too much. -/
def add? (states pointers : Nat) (t : Tally) : Option Tally :=
  let t : Tally := ⟨t.states + states, t.pointers + pointers⟩
  if t.weight ≤ weightLimit then some t else none

/-- The pointers of a state that goes on to some states without reading. -/
def forkPointers (count : Nat) : Nat := 4 * count

/-- The pointers of a state that reads a byte out of some ranges. -/
def readPointers (count : Nat) : Nat := 8 * count

end Tally

/-- States that may be used again, by what they read and where they go. There is room for so many
of them as there are slots; what is remembered later pushes out what was in its slot. -/
structure Memory where
  slots : Nat
  known : Std.HashMap Nat (List Nat × Nat) := {}

namespace Memory

/-- The slot of a key, by a hash that takes in one number after another. -/
def slot (m : Memory) (key : List Nat) : Nat :=
  let mix (h : UInt64) (n : Nat) : UInt64 := (h ^^^ n.toUInt64) * 1099511628211
  (key.foldl mix 14695981039346656037).toNat % m.slots

def find? (m : Memory) (key : List Nat) : Option Nat :=
  match m.known[m.slot key]? with
  | some (other, state) => if other = key then some state else none
  | none => none

def remember (m : Memory) (key : List Nat) (state : Nat) : Memory :=
  { m with known := m.known.insert (m.slot key) (key, state) }

end Memory

structure Workpiece where
  tally : Tally
  memory : Memory

namespace Workpiece

/-- The state of a key, made if there is none to be used again. -/
def state? (w : Workpiece) (key : List Nat) (pointers : Nat) : Option (Workpiece × Nat) :=
  match w.memory.find? key with
  | some state => some (w, state)
  | none =>
    (w.tally.add? 1 pointers).map fun t =>
      (⟨t, w.memory.remember key w.tally.states⟩, w.tally.states)

end Workpiece

/-! Backwards, each encoding is a chain of states from its last byte to its first; chains share the
states they end with. -/

/-- Makes the chain of an encoding, which ends at the state `target`. -/
def addChain? (target : Nat) : List ByteRange → Workpiece → Option Workpiece
  | [], w => some w
  | (a, b) :: rest, w =>
    (w.state? [target, a, b] 0).bind fun (w, state) => addChain? state rest w

def addChains? (encodings : List (List ByteRange)) (t : Tally) : Option Tally := do
  let t ← t.add? 1 (Tally.forkPointers encodings.length)
  let target := t.states
  let t ← t.add? 1 0
  let w ← encodings.foldlM (fun w e => addChain? target e w) ⟨t, ⟨1000, {}⟩⟩
  pure w.tally

/-! Forwards, the encodings make a tree in which equal subtrees are one. They come in order, so only
the branch to the last one is open. -/

/-- A node of the open branch: the ranges it reads with the states behind them, and the range behind
which the branch goes on. -/
structure OpenNode where
  closed : List (Nat × Nat × Nat) := []
  last : Option ByteRange := none

/-- The node with the state that the branch has come to behind it. -/
def OpenNode.close (n : OpenNode) (state : Nat) : OpenNode :=
  match n.last with
  | some (a, b) => ⟨n.closed ++ [(a, b, state)], none⟩
  | none => n

/-- Makes the states of a whole open branch, which ends at the state `target`. -/
def closeBranch? (target : Nat) : List OpenNode → Workpiece → Option (Workpiece × Nat)
  | [], w => some (w, target)
  | n :: rest, w => do
    let (w, state) ← closeBranch? target rest w
    let ranges := (n.close state).closed
    w.state? (ranges.flatMap fun (a, b, next) => [a, b, next]) (Tally.readPointers ranges.length)

/-- Adds an encoding to the tree: the branch stays open as far as the encoding goes along it. -/
def addEncoding? (target : Nat) :
    List OpenNode → List ByteRange → Workpiece → Option (Workpiece × List OpenNode)
  | n :: nodes, r :: rest, w =>
    if n.last = some r then do
      let (w, nodes) ← addEncoding? target nodes rest w
      pure (w, n :: nodes)
    else do
      let (w, state) ← closeBranch? target nodes w
      let n := { n.close state with last := some r }
      pure (w, n :: rest.map fun r => { last := some r })
  | nodes, _, w => some (w, nodes)

def addTree? (encodings : List (List ByteRange)) (t : Tally) : Option Tally := do
  let target := t.states
  let t ← t.add? 1 0
  let start : Workpiece × List OpenNode := (⟨t, ⟨10000, {}⟩⟩, [{}])
  let (w, nodes) ← encodings.foldlM (fun (w, nodes) e => addEncoding? target nodes e w) start
  let (w, _) ← closeBranch? target nodes w
  pure w.tally

def addSet? (backwards : Bool) (s : CharSet) (t : Tally) : Option Tally :=
  if s.isAscii then do
    let t ← t.add? 1 0
    t.add? 1 (Tally.readPointers s.ranges.size)
  else if backwards then addChains? s.encodings t
  else addTree? s.encodings t

/-! Literals as branches make a tree by their bytes. Where one of them ends, the branches that come
later go on in a row of their own, since the first match counts. -/

/-- Splits what is left of literals into rows at those that end here. `ended` tells whether one has
ended before, `moved` whether one has gone on. -/
def rowsOf (ended moved : Bool) : List (List Nat) → List (List (List Nat))
  | [] => [[]]
  | [] :: rest =>
    if ended && !moved then rowsOf ended moved rest else [] :: rowsOf true moved rest
  | bytes :: rest =>
    match rowsOf ended true rest with
    | row :: rows => (bytes :: row) :: rows
    | [] => [[bytes]]

/-- What is left of the literals of a row behind each first byte. -/
def tailsOf (row : List (List Nat)) : List (List (List Nat)) :=
  (row.filterMap List.head?).eraseDups.map fun b =>
    row.filterMap fun bytes => if bytes.head? = some b then some bytes.tail else none

/-- What a node of the tree and all below it take. Each step goes one byte on, so the longest
literal bounds the steps. -/
def nodeTally : Nat → List (List Nat) → Tally
  | 0, _ => {}
  | fuel + 1, literals =>
    let rows := (rowsOf false false literals).map tailsOf
    let inner := (rows.flatten.filter fun tails => tails.any (· ≠ [])).map (nodeTally fuel)
    let filled := (rows.map List.length).filter (0 < ·)
    let reading := (filled.map fun n => if n = 1 then 0 else Tally.readPointers n).sum
    let fork := Tally.forkPointers (filled.length + (rows.length - 1))
    ⟨filled.length + 1 + (inner.map Tally.states).sum,
      reading + fork + (inner.map Tally.pointers).sum⟩

def addLiterals? (backwards : Bool) (literals : List (List Char)) (t : Tally) : Option Tally :=
  let words := literals.map fun cs => if backwards then (bytesOf cs).reverse else bytesOf cs
  let tree := nodeTally ((words.map List.length).foldl max 0 + 1) words
  t.add? (tree.states + 1) tree.pointers

namespace Expression

def literal? : Expression → Option (List Char)
  | literal cs => some cs
  | _ => none

def again (step : Tally → Option Tally) : Nat → Tally → Option Tally
  | 0, t => some t
  | n + 1, t => (step t).bind (again step n)

/-- Makes a number of copies; without any there is a state that does nothing. -/
def copies (step : Tally → Option Tally) (n : Nat) (t : Tally) : Option Tally :=
  if n = 0 then t.add? 1 0 else again step n t

mutual

def addTo? (backwards : Bool) : Expression → Tally → Option Tally
  | empty, t => t.add? 1 0
  | literal cs, t => t.add? (byteLength cs) 0
  | set s, t => addSet? backwards s t
  | look _, t => t.add? 1 0
  | group p _, t =>
    if backwards then p.addTo? backwards t
    else do
      let t ← t.add? 1 0
      let t ← p.addTo? backwards t
      t.add? 1 0
  | repeated p least most _, t =>
    let fork := Tally.forkPointers 2
    match least, most with
    | 0, some 1 => do
      let t ← t.add? 1 fork
      let t ← p.addTo? backwards t
      t.add? 1 0
    | 0, none =>
      if p.alwaysMoves then do
        let t ← t.add? 1 fork
        p.addTo? backwards t
      else do
        let t ← p.addTo? backwards t
        t.add? 3 (2 * fork)
    | n, none => do
      let t ← copies (p.addTo? backwards) n t
      t.add? 1 fork
    | n, some m =>
      if n = m then copies (p.addTo? backwards) n t
      else do
        let t ← copies (p.addTo? backwards) n t
        let t ← t.add? 1 0
        again (fun t => do p.addTo? backwards (← t.add? 1 fork)) (m - n) t
  | sequence ps, t => addSequence? backwards ps t
  | choice ps, t =>
    match ps.mapM literal? with
    | some literals => addLiterals? backwards literals t
    | none => addBranches? backwards ps.length 2 ps t

/-- Makes the states of expressions one after another, backwards from the last to the first. -/
def addSequence? (backwards : Bool) : List Expression → Tally → Option Tally
  | [], t => some t
  | p :: ps, t =>
    if backwards then (addSequence? backwards ps t).bind (p.addTo? backwards)
    else (p.addTo? backwards t).bind (addSequence? backwards ps)

/-- Makes the states of branches. Fork and end are made behind the first `wait` of them. -/
def addBranches? (backwards : Bool) (count wait : Nat) :
    List Expression → Tally → Option Tally
  | [], t => some t
  | p :: ps, t => do
    let t ← p.addTo? backwards t
    let t ← if wait = 1 then t.add? 2 (Tally.forkPointers count) else some t
    addBranches? backwards count (wait - 1) ps t

end

/-- The automaton that reads forwards. Unless a match can only be at the start of the text, it may
skip what is in front of one. -/
def forwards? (p : Expression) : Option Tally := do
  let start : Tally := {}
  let t ← if p.startsText then start.add? 1 0
    else start.add? 3 (Tally.forkPointers 2 + Tally.readPointers 1)
  let t ← t.add? 1 0
  let t ← p.addTo? false t
  t.add? 2 0

def backwards? (p : Expression) : Option Tally := do
  let start : Tally := {}
  let t ← if p.endsText then start.add? 1 0
    else start.add? 3 (Tally.forkPointers 2 + Tally.readPointers 1)
  let t ← p.addTo? true t
  t.add? 1 0

def isAffordable (p : Expression) : Bool := p.forwards?.isSome && p.backwards?.isSome

end Expression

end JsonExplorer.Pattern
