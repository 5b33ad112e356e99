import JsonExplorer.Toml.Node
import JsonExplorer.Toml.Text

/-!
Numbers, dates and truth values of a TOML document. Integers keep to 64 bits with a sign; of
decimal fractions and dates only the form is checked.
-/

namespace JsonExplorer.Toml

/-- Reads digits of one kind with single low lines between them; `due` says that a digit must come
next. -/
def digitRun? (ok : Char → Bool) : Bool → List Char → Reading (List Char)
  | due, [] => if due then none else some ([], [])
  | due, c :: rest =>
    if ok c then (digitRun? ok false rest).map fun (ds, rest) => (c :: ds, rest)
    else if due then none
    else if c = '_' then digitRun? ok true rest
    else some ([], c :: rest)

/-- Reads a sign, if there is one, and tells whether it is a minus. -/
def sign : List Char → Bool × List Char
  | '+' :: rest => (false, rest)
  | '-' :: rest => (true, rest)
  | cs => (false, cs)

/-- Reads decimal digits of which the first is a zero only if it stands alone. -/
def decimalDigits? : List Char → Reading (List Char)
  | '0' :: rest => some (['0'], rest)
  | cs => digitRun? Char.isDigit true cs

def digitsValue (base : Nat) (ds : List Char) : Nat :=
  ds.foldl (fun n c => base * n + (Json.hexValue? c).getD 0) 0

def isHexDigit (c : Char) : Bool := (Json.hexValue? c).isSome

def isOctalDigit (c : Char) : Bool := '0' ≤ c && c ≤ '7'

def isBinaryDigit (c : Char) : Bool := c = '0' || c = '1'

def integerWithin? (i : Int) : Option Node :=
  if -Int.pow 2 63 ≤ i ∧ i < Int.pow 2 63 then some (.integer i) else none

/-- Reads an integer behind the two characters that announce its base. -/
def based? (base : Nat) (ok : Char → Bool) (cs : List Char) : Reading Node :=
  (digitRun? ok true cs).bind fun (ds, rest) =>
    (integerWithin? (digitsValue base ds)).map fun n => (n, rest)

/-- Whether `m * 10 ^ e` lies beyond the doubles. -/
def isTooLarge (m : Nat) (e : Int) : Bool :=
  if m = 0 then false
  else if 310 < e then true
  else if e < 0 then Nat.pow 10 e.natAbs * (Nat.pow 2 1024 - Nat.pow 2 970) ≤ m
  else Nat.pow 2 1024 - Nat.pow 2 970 ≤ m * Nat.pow 10 e.natAbs

def exponent? (cs : List Char) : Reading Int :=
  let (negative, cs) := sign cs
  (digitRun? Char.isDigit true cs).map fun (ds, rest) =>
    let n : Int := digitsValue 10 ds
    (if negative then -n else n, rest)

/-- A decimal fraction. One that is too large is refused, unless it is negative. -/
def float? (negative : Bool) (digits : List Char) (places : Nat) (e : Int) : Option Node :=
  if ¬ negative ∧ isTooLarge (digitsValue 10 digits) (e - places) then none else some .float

/-- Reads what follows the decimal digits `ds`: a fraction, an exponent, both or neither. -/
def decimalRest? (negative : Bool) (ds : List Char) : List Char → Reading Node
  | '.' :: rest =>
    (digitRun? Char.isDigit true rest).bind fun (fs, rest) =>
      match rest with
      | c :: more =>
        if c = 'e' ∨ c = 'E' then
          (exponent? more).bind fun (e, rest) =>
            (float? negative (ds ++ fs) fs.length e).map fun n => (n, rest)
        else (float? negative (ds ++ fs) fs.length 0).map fun n => (n, rest)
      | [] => (float? negative (ds ++ fs) fs.length 0).map fun n => (n, rest)
  | c :: rest =>
    if c = 'e' ∨ c = 'E' then
      (exponent? rest).bind fun (e, rest) => (float? negative ds 0 e).map fun n => (n, rest)
    else whole (c :: rest)
  | [] => whole []
where
  whole (rest : List Char) : Reading Node :=
    let n : Int := digitsValue 10 ds
    (integerWithin? (if negative then -n else n)).map fun n => (n, rest)

def number? : List Char → Reading Node
  | '0' :: 'x' :: rest => based? 16 isHexDigit rest
  | '0' :: 'o' :: rest => based? 8 isOctalDigit rest
  | '0' :: 'b' :: rest => based? 2 isBinaryDigit rest
  | cs =>
    match sign cs with
    | (_, 'i' :: 'n' :: 'f' :: rest) => some (.float, rest)
    | (_, 'n' :: 'a' :: 'n' :: rest) => some (.float, rest)
    | (negative, cs) => (decimalDigits? cs).bind fun (ds, rest) => decimalRest? negative ds rest

/-- Reads a number of exactly `count` digits. -/
def fixedDigits? : Nat → Nat → List Char → Reading Nat
  | 0, n, cs => some (n, cs)
  | _ + 1, _, [] => none
  | count + 1, n, c :: rest =>
    if c.isDigit then fixedDigits? count (10 * n + (c.toNat - 48)) rest else none

/-- Reads two digits that make a number between the given ends. -/
def twoDigits? (first last : Nat) (cs : List Char) : Reading Nat :=
  (fixedDigits? 2 0 cs).bind fun (n, rest) =>
    if first ≤ n ∧ n ≤ last then some (n, rest) else none

def mark? (m : Char) : List Char → Option (List Char)
  | [] => none
  | c :: rest => if c = m then some rest else none

def daysInMonth (year month : Nat) : Nat :=
  if month = 2 then
    if year % 4 = 0 ∧ (year % 100 ≠ 0 ∨ year % 400 = 0) then 29 else 28
  else if month = 4 ∨ month = 6 ∨ month = 9 ∨ month = 11 then 30
  else 31

def day? (cs : List Char) : Option (List Char) := do
  let (year, cs) ← fixedDigits? 4 0 cs
  let cs ← mark? '-' cs
  let (month, cs) ← twoDigits? 1 12 cs
  let cs ← mark? '-' cs
  let (_, cs) ← twoDigits? 1 (daysInMonth year month) cs
  pure cs

/-- Reads a time of day, which may have a leap second and a fraction. -/
def time? (cs : List Char) : Option (List Char) := do
  let (_, cs) ← twoDigits? 0 23 cs
  let cs ← mark? ':' cs
  let (_, cs) ← twoDigits? 0 59 cs
  let cs ← mark? ':' cs
  let (_, cs) ← twoDigits? 0 60 cs
  match cs with
  | '.' :: rest =>
    match rest.takeWhile Char.isDigit with
    | [] => pure cs
    | _ => pure (rest.dropWhile Char.isDigit)
  | _ => pure cs

/-- Reads the distance of a time zone, if one is given. -/
def zone? : List Char → Option (List Char)
  | 'Z' :: rest => some rest
  | 'z' :: rest => some rest
  | c :: rest =>
    if c = '+' ∨ c = '-' then do
      let (_, rest) ← twoDigits? 0 23 rest
      let rest ← mark? ':' rest
      let (_, rest) ← twoDigits? 0 59 rest
      pure rest
    else some (c :: rest)
  | [] => some []

/-- Whether a text starts like a day and not like a number. -/
def startsDay (cs : List Char) : Bool :=
  ((fixedDigits? 4 0 cs).bind fun (_, rest) => mark? '-' rest).isSome

/-- Whether a text starts like a time and not like a number. -/
def startsTime (cs : List Char) : Bool :=
  ((fixedDigits? 2 0 cs).bind fun (_, rest) => mark? ':' rest).isSome

/-- Reads a day with a time behind it, if one follows. -/
def moment? (cs : List Char) : Option (List Char) :=
  (day? cs).bind fun rest =>
    match rest with
    | c :: more =>
      if (c = 'T' ∨ c = 't' ∨ c = ' ') ∧ startsTime more then (time? more).bind zone?
      else some rest
    | [] => some rest

def numberOrDate? (cs : List Char) : Reading Node :=
  if startsDay cs then (moment? cs).map fun rest => (.date, rest)
  else if startsTime cs then (time? cs).map fun rest => (.date, rest)
  else number? cs

def boolean? : List Char → Reading Node
  | 't' :: 'r' :: 'u' :: 'e' :: rest => some (.boolean true, rest)
  | 'f' :: 'a' :: 'l' :: 's' :: 'e' :: rest => some (.boolean false, rest)
  | _ => none

end JsonExplorer.Toml
