/-!
Doubles in decimal. A double is taken apart into an exact number, the shortest decimal that reads
back as it is looked for, and that is laid out: positional for numbers of everyday size, with an
exponent for very large and very small ones.
-/

namespace JsonExplorer.Decimal

/-! ## Exact numbers -/

/-- A finite double, `m * 2 ^ q` up to its sign. Just above a power of two the gap to the next
smaller double is half the gap to the next larger one. -/
structure Double where
  negative : Bool
  m : Nat
  q : Int
  narrowBelow : Bool
  deriving DecidableEq, Repr

/-- Takes a bit pattern apart. Patterns of infinities and of no number are read as if finite. -/
def Double.ofBits (bits : UInt64) : Double :=
  let negative := bits.toNat / Nat.pow 2 63 == 1
  let e : Nat := bits.toNat / Nat.pow 2 52 % Nat.pow 2 11
  let f : Nat := bits.toNat % Nat.pow 2 52
  if e == 0 then ⟨negative, f, -1074, false⟩
  else ⟨negative, Nat.pow 2 52 + f, (e : Int) - 1075, f == 0 && e > 1⟩

def Double.ofFloat (x : Float) : Double := Double.ofBits x.toBits

namespace Double

/-- The number without its sign, rounded down to a whole one. -/
def whole (x : Double) : Nat := x.m * Nat.pow 2 x.q.toNat / Nat.pow 2 (-x.q).toNat

def isWhole (x : Double) : Bool := x.m * Nat.pow 2 x.q.toNat % Nat.pow 2 (-x.q).toNat == 0

end Double

/-!
## Shortest digits

Grids of 1, 2, … 17 significant digits are tried in turn, and on each the two points next to the
value. Of two points that both read back the nearer is taken, and of two equally near the even one.
-/

/-- Compares `a * 10 ^ i` with `n * 2 ^ j`. -/
def compareScaled (a : Nat) (i : Int) (n : Nat) (j : Int) : Ordering :=
  compare (a * Nat.pow 10 i.toNat * Nat.pow 2 (-j).toNat)
    (n * Nat.pow 2 j.toNat * Nat.pow 10 (-i).toNat)

namespace Double

/-- Whether `digits * 10 ^ e` lies among the reals that round to `x`. -/
def readsBack (x : Double) (digits : Nat) (e : Int) : Bool :=
  let low := if x.narrowBelow then 4 * x.m - 1 else 4 * x.m - 2
  let high := 4 * x.m + 2
  let ends := x.m % 2 == 0
  let fromLow := compareScaled digits e low (x.q - 2)
  let toHigh := compareScaled digits e high (x.q - 2)
  (fromLow == .gt || ends && fromLow == .eq) && (toHigh == .lt || ends && toHigh == .eq)

/-- The least `k` with `x < 10 ^ k`, for `x` not zero. -/
def scale (x : Double) : Int :=
  let estimate := (x.m.log2 + x.q) * 1233 / 4096
  if compareScaled 1 estimate x.m x.q == .gt then estimate
  else if compareScaled 1 (estimate + 1) x.m x.q == .gt then estimate + 1
  else estimate + 2

def quotient (x : Double) (e : Int) : Nat :=
  x.m * Nat.pow 2 x.q.toNat * Nat.pow 10 (-e).toNat /
    (Nat.pow 2 (-x.q).toNat * Nat.pow 10 e.toNat)

/-- The point of the grid `10 ^ e` that stands for `x`, if a point next to `x` reads back. -/
def onGrid? (x : Double) (e : Int) : Option Nat :=
  let below := x.quotient e
  let above := below + 1
  match x.readsBack below e, x.readsBack above e with
  | true, true =>
    match compareScaled (below + above) e (2 * x.m) x.q with
    | .gt => some below
    | .lt => some above
    | .eq => some (if below % 2 = 0 then below else above)
  | true, false => some below
  | false, true => some above
  | false, false => none

/-- Tries the grids that show `n`, `n + 1`, … digits, `fuel` of them. -/
def selectFrom (x : Double) (k : Int) : Nat → Nat → Nat × Int
  | 0, n => (x.quotient (k - n), k - n)
  | fuel + 1, n =>
    match x.onGrid? (k - n) with
    | some d => (d, k - n)
    | none => selectFrom x k fuel (n + 1)

/-- Digits `d` and an exponent `e` such that `d * 10 ^ e` is the shortest decimal that reads back
as `x` without its sign, for `x` not zero. -/
def shortest (x : Double) : Nat × Int := selectFrom x x.scale 17 1

end Double

/-! ## Text -/

def stripZeros (digits : List Char) : List Char :=
  (digits.reverse.dropWhile (· == '0')).reverse

/-- Lays out `0.d₁d₂… * 10 ^ k`. The point stands among or next to the digits, with a `.0` behind a
whole number, as long as `-5 < k ≤ 16`. -/
def layOut (digits : List Char) (k : Int) : List Char :=
  let n : Int := digits.length
  if -5 < k && k ≤ 0 then '0' :: '.' :: (List.replicate (-k).toNat '0' ++ digits)
  else if 0 < k && k ≤ 16 then
    if k < n then digits.take k.toNat ++ '.' :: digits.drop k.toNat
    else digits ++ List.replicate (k - n).toNat '0' ++ ['.', '0']
  else
    let e := k - 1
    let mark := if e < 0 then ['e', '-'] else ['e', '+']
    let lead := match digits with
      | d :: rest@(_ :: _) => d :: '.' :: rest
      | ds => ds
    lead ++ mark ++ (Nat.repr e.natAbs).toList

def unsignedText (x : Double) : List Char :=
  if x.m = 0 then ['0', '.', '0']
  else
    let (d, e) := x.shortest
    let ds := (Nat.repr d).toList
    layOut (stripZeros ds) (ds.length + e)

/-- The text of a finite double. Zero keeps its sign. -/
def floatText (x : Float) : String :=
  let d := Double.ofFloat x
  String.ofList (if d.negative then '-' :: unsignedText d else unsignedText d)

end JsonExplorer.Decimal
