import JsonExplorer.Json.Scan
import JsonExplorer.Value

/-!
Numerals. An integer within the 64-bit limits is read exactly. Any other number goes through a
significand below `2 ^ 64`: digits that no longer fit are dropped, a dropped digit before the
point counts one power of ten, and the significand is scaled in double precision.
-/

namespace JsonExplorer.Json

/-- A significand and the power of ten it is to be multiplied by. -/
structure Mantissa where
  significand : Nat
  exponent : Int

def digitValue (c : Char) : Nat := c.toNat - 48

/-- Appends digits to a significand while it stays below `2 ^ 64`, and counts those dropped. -/
def appendDigits (significand : Nat) : List Char → Nat × Nat
  | [] => (significand, 0)
  | c :: rest =>
    let next := significand * 10 + digitValue c
    if next < UInt64.size then appendDigits next rest else (significand, (c :: rest).length)

def powerOfTen (n : Nat) : Float := Float.ofScientific 1 false n

/-- Multiplies by a power of ten, in steps of 308 towards zero; nothing if the result is too
large. Three steps bring every significand down to zero. -/
def scaleBy : Nat → Float → Int → Option Float
  | steps, f, e =>
    if e.natAbs ≤ 308 then
      if 0 ≤ e then
        let scaled := f * powerOfTen e.toNat
        if scaled.isInf then none else some scaled
      else some (f / powerOfTen e.natAbs)
    else if f == 0 then some f
    else if 0 ≤ e then none
    else match steps with
      | 0 => some 0
      | steps + 1 => scaleBy steps (f / powerOfTen 308) (e + 308)

/-- The double a mantissa stands for, with its sign. -/
def Mantissa.toFloat? (m : Mantissa) (negative : Bool) : Option Float :=
  (scaleBy 3 (Float.ofNat m.significand) m.exponent).map fun f => if negative then -f else f

/-- The largest exponent that is read; a larger one settles the number by itself. -/
def exponentLimit : Nat := 2147483647

/-- Reads the digits of an exponent after the first: its value, or nothing as soon as it exceeds
the limit. -/
def scanExponentDigits (value : Nat) : List Char → Option Nat × List Char
  | [] => (some value, [])
  | c :: rest =>
    if c.isDigit then
      let next := value * 10 + digitValue c
      if exponentLimit < next then (none, rest) else scanExponentDigits next rest
    else (some value, c :: rest)

def finishFloat (negative : Bool) (m : Mantissa) (rest : List Char) : Scan (Number × List Char) :=
  match m.toFloat? negative with
  | some x => .ok (.float x, rest)
  | none => .error (.after .numberOutOfRange rest)

/-- Reads an exponent whose letter has been read, and finishes the number. -/
def scanExponent (negative : Bool) (m : Mantissa) (cs : List Char) : Scan (Number × List Char) :=
  let (down, cs) := match cs with
    | '+' :: rest => (false, rest)
    | '-' :: rest => (true, rest)
    | rest => (false, rest)
  match cs with
  | [] => .error (.on .endInValue [])
  | c :: rest =>
    if !c.isDigit then .error (.on .invalidNumber cs)
    else match scanExponentDigits (digitValue c) rest with
      | (some e, rest) =>
        finishFloat negative { m with exponent := if down then m.exponent - e else m.exponent + e }
          rest
      | (none, rest) =>
        if m.significand ≠ 0 && !down then .error (.after .numberOutOfRange rest)
        else .ok (.float (if negative then -0.0 else 0.0), rest.dropWhile Char.isDigit)

/-- Goes on behind the digits of a number that can no longer be an integer. -/
def scanAfterDigits (negative : Bool) (m : Mantissa) (cs : List Char) : Scan (Number × List Char) :=
  match cs with
  | 'e' :: rest | 'E' :: rest => scanExponent negative m rest
  | rest => finishFloat negative m rest

/-- Reads a fraction whose point has been read. It needs a digit. -/
def scanFraction (negative : Bool) (m : Mantissa) (cs : List Char) : Scan (Number × List Char) :=
  let digits := cs.takeWhile Char.isDigit
  let rest := cs.dropWhile Char.isDigit
  match digits with
  | [] => match rest with
    | [] => .error (.on .endInValue [])
    | _ => .error (.on .invalidNumber rest)
  | _ =>
    let (significand, dropped) := appendDigits m.significand digits
    scanAfterDigits negative ⟨significand, m.exponent - (digits.length - dropped : Nat)⟩ rest

/-- An integer as it is kept: exactly if it fits 64 bits, as a double otherwise. There is no exact
negative zero. -/
def integerNumber (negative : Bool) (n : Nat) : Number :=
  if !negative then .integer n
  else if 0 < n ∧ n ≤ Nat.pow 2 63 then .integer (-n)
  else .float (-Float.ofNat n)

def scanAfterWhole (negative : Bool) (significand dropped : Nat) (rest : List Char) :
    Scan (Number × List Char) :=
  match rest with
  | '.' :: more => scanFraction negative ⟨significand, dropped⟩ more
  | 'e' :: more | 'E' :: more => scanExponent negative ⟨significand, dropped⟩ more
  | _ =>
    if dropped = 0 then .ok (integerNumber negative significand, rest)
    else finishFloat negative ⟨significand, dropped⟩ rest

/-- Reads a number whose minus sign, if any, has been read. Only a lone zero may lead. -/
def scanNumber (negative : Bool) (cs : List Char) : Scan (Number × List Char) :=
  match cs with
  | [] => .error (.on .endInValue [])
  | c :: rest =>
    if c = '0' then
      match rest with
      | d :: _ =>
        if d.isDigit then .error (.on .invalidNumber rest)
        else scanAfterWhole negative 0 0 rest
      | [] => scanAfterWhole negative 0 0 []
    else if c.isDigit then
      let (significand, dropped) := appendDigits 0 (cs.takeWhile Char.isDigit)
      scanAfterWhole negative significand dropped (cs.dropWhile Char.isDigit)
    else .error (.on .invalidNumber cs)

end JsonExplorer.Json
