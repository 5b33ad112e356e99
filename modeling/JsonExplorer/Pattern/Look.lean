import JsonExplorer.Pattern.CharSet

/-!
Conditions on a place between two characters of a text.
-/

namespace JsonExplorer.Pattern

inductive Look where
  | textStart
  | textEnd
  | lineStart
  | lineEnd
  | crlfStart
  | crlfEnd
  | boundary
  | noBoundary
  | wordStart
  | wordEnd
  | wordStartHalf
  | wordEndHalf
  deriving DecidableEq, Repr

def Look.isOfWords : Look → Bool
  | boundary | noBoundary | wordStart | wordEnd | wordStartHalf | wordEndHalf => true
  | _ => false

/-- A condition; one of words may look at ASCII words only. -/
structure LookAt where
  look : Look
  ascii : Bool := false
  deriving DecidableEq, Repr

/-- Whether a condition holds between the characters `before` and `after`. -/
def LookAt.holds (l : LookAt) (before after : Option Char) : Bool :=
  let isWord (c : Char) := if l.ascii then c.isAlphanum || c == '_' else CharSet.wordChars.mem c
  let left := before.any isWord
  let right := after.any isWord
  match l.look with
  | .textStart => before.isNone
  | .textEnd => after.isNone
  | .lineStart => before.all (· == '\n')
  | .lineEnd => after.all (· == '\n')
  | .crlfStart => before.all fun c => c == '\n' || (c == '\r' && after != some '\n')
  | .crlfEnd => after.all fun c => c == '\r' || (c == '\n' && before != some '\r')
  | .boundary => left != right
  | .noBoundary => left == right
  | .wordStart => !left && right
  | .wordEnd => left && !right
  | .wordStartHalf => !left
  | .wordEndHalf => !right

end JsonExplorer.Pattern
