import JsonExplorer.Decimal
import JsonExplorer.Value

/-!
Writing a value as JSON text, either without any blanks or with one item on a line and two blanks
of indent for each open container.
-/

namespace JsonExplorer

namespace Text

def hexDigit (n : Nat) : Char :=
  if n < 10 then Char.ofNat (48 + n) else Char.ofNat (87 + n)

def quoteChar (c : Char) : List Char :=
  if c = '"' then ['\\', '"']
  else if c = '\\' then ['\\', '\\']
  else if c = '\n' then ['\\', 'n']
  else if c = '\r' then ['\\', 'r']
  else if c = '\t' then ['\\', 't']
  else if c.toNat = 8 then ['\\', 'b']
  else if c.toNat = 12 then ['\\', 'f']
  else if c.toNat < 32 then
    ['\\', 'u', '0', '0', hexDigit (c.toNat / 16), hexDigit (c.toNat % 16)]
  else [c]

def quoteChars : List Char → List Char
  | [] => []
  | c :: rest => quoteChar c ++ quoteChars rest

def quoted (cs : List Char) : List Char := '"' :: (quoteChars cs ++ ['"'])

end Text

def Number.text : Number → String
  | integer i => toString i
  | float x => Decimal.floatText x

namespace Value

def wordChars : Bool → List Char
  | true => ['t', 'r', 'u', 'e']
  | false => ['f', 'a', 'l', 's', 'e']

mutual

def compactChars : Value → List Char
  | null => ['n', 'u', 'l', 'l']
  | boolean b => wordChars b
  | number n => n.text.toList
  | string s => Text.quoted s.toList
  | array [] => ['[', ']']
  | array (v :: rest) => '[' :: (v.compactChars ++ compactItems rest)
  | object [] => ['\x7b', '\x7d']
  | object ((k, v) :: rest) =>
    '\x7b' :: (Text.quoted k.toList ++ ':' :: (v.compactChars ++ compactFields rest))

/-- What follows the first item of a list. -/
def compactItems : List Value → List Char
  | [] => [']']
  | v :: rest => ',' :: (v.compactChars ++ compactItems rest)

/-- What follows the first field of an object. -/
def compactFields : List (String × Value) → List Char
  | [] => ['\x7d']
  | (k, v) :: rest =>
    ',' :: (Text.quoted k.toList ++ ':' :: (v.compactChars ++ compactFields rest))

end

def compact (v : Value) : String := String.ofList v.compactChars

/-- A line end and the indent of `depth` open containers. -/
def newline (depth : Nat) : List Char := '\n' :: List.replicate (2 * depth) ' '

mutual

/-- The characters of the text laid out over lines, inside `depth` open containers. -/
def prettyChars (depth : Nat) : Value → List Char
  | null => ['n', 'u', 'l', 'l']
  | boolean b => wordChars b
  | number n => n.text.toList
  | string s => Text.quoted s.toList
  | array [] => ['[', ']']
  | array (v :: rest) =>
    '[' :: (newline (depth + 1) ++ (v.prettyChars (depth + 1) ++ prettyItems depth rest))
  | object [] => ['\x7b', '\x7d']
  | object ((k, v) :: rest) =>
    '\x7b' :: (newline (depth + 1) ++ (Text.quoted k.toList ++ ':' :: ' ' ::
      (v.prettyChars (depth + 1) ++ prettyFields depth rest)))

def prettyItems (depth : Nat) : List Value → List Char
  | [] => newline depth ++ [']']
  | v :: rest =>
    ',' :: (newline (depth + 1) ++ (v.prettyChars (depth + 1) ++ prettyItems depth rest))

def prettyFields (depth : Nat) : List (String × Value) → List Char
  | [] => newline depth ++ ['\x7d']
  | (k, v) :: rest =>
    ',' :: (newline (depth + 1) ++ (Text.quoted k.toList ++ ':' :: ' ' ::
      (v.prettyChars (depth + 1) ++ prettyFields depth rest)))

end

def pretty (v : Value) : String := String.ofList (v.prettyChars 0)

end Value

end JsonExplorer
