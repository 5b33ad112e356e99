/-!
What can be wrong with a JSON text, where, and how it is said. A fault remembers how many bytes of
the text were left when it was found; line and column follow from the text. Columns count bytes.
-/

namespace JsonExplorer.Json

inductive Cause where
  | endInList
  | endInObject
  | endInString
  | endInValue
  | expectedWord
  | expectedValue
  | expectedColon
  | expectedCommaOrBracket
  | expectedCommaOrBrace
  | trailingComma
  | trailingCharacters
  | keyNotString
  | invalidNumber
  | numberOutOfRange
  | invalidEscape
  | endInHexEscape
  | loneSurrogate
  | controlCharacter
  | tooDeep
  | missingField (name : String)
  | duplicateField (name : String)
  | wrongType (found expected : String)
  | wrongValue (found expected : String)
  | wrongLength (found : Nat) (expected : String)
  | unknownVariant (found expected : String)
  deriving DecidableEq, Repr

def Cause.message : Cause → String
  | endInList => "EOF while parsing a list"
  | endInObject => "EOF while parsing an object"
  | endInString => "EOF while parsing a string"
  | endInValue => "EOF while parsing a value"
  | expectedWord => "expected ident"
  | expectedValue => "expected value"
  | expectedColon => "expected `:`"
  | expectedCommaOrBracket => "expected `,` or `]`"
  | expectedCommaOrBrace => "expected `,` or `\x7d`"
  | trailingComma => "trailing comma"
  | trailingCharacters => "trailing characters"
  | keyNotString => "key must be a string"
  | invalidNumber => "invalid number"
  | numberOutOfRange => "number out of range"
  | invalidEscape => "invalid escape"
  | endInHexEscape => "unexpected end of hex escape"
  | loneSurrogate => "lone leading surrogate in hex escape"
  | controlCharacter => "control character (\\u0000-\\u001F) found while parsing a string"
  | tooDeep => "recursion limit exceeded"
  | missingField name => "missing field `" ++ name ++ "`"
  | duplicateField name => "duplicate field `" ++ name ++ "`"
  | wrongType found expected => "invalid type: " ++ found ++ ", expected " ++ expected
  | wrongValue found expected => "invalid value: " ++ found ++ ", expected " ++ expected
  | wrongLength found expected => "invalid length " ++ toString found ++ ", expected " ++ expected
  | unknownVariant found expected =>
    "unknown variant `" ++ found ++ "`, expected " ++ expected

/-- A cause with the number of bytes still unread at the place it is reported for. -/
structure Fault where
  cause : Cause
  left : Nat
  deriving DecidableEq, Repr

def byteCount : List Char → Nat
  | [] => 0
  | c :: rest => c.utf8Size + byteCount rest

namespace Fault

/-- Reported for what has been read so far, with `rest` unread. -/
def after (cause : Cause) (rest : List Char) : Fault := ⟨cause, byteCount rest⟩

/-- Reported for the next byte, or for the end of the text if there is none. -/
def on (cause : Cause) (rest : List Char) : Fault := ⟨cause, byteCount rest - 1⟩

end Fault

/-- The line and the column reached after `index` bytes, counted on from `line` and `column`. -/
def locate (index : Nat) (line column : Nat) : List Char → Nat × Nat
  | [] => (line, column)
  | c :: rest =>
    if index = 0 then (line, column)
    else if c = '\n' then locate (index - 1) (line + 1) 0 rest
    else if index < c.utf8Size then (line, column + index)
    else locate (index - c.utf8Size) line (column + c.utf8Size) rest

/-- A fault put in words, with the line and column of the byte that shows it. A line of zero means
that the place is not known. -/
structure DecodeError where
  message : String
  line : Nat
  column : Nat
  deriving DecidableEq, Repr

namespace DecodeError

def ofFault (text : List Char) (fault : Fault) : DecodeError :=
  let (line, column) := locate (byteCount text - fault.left) 1 0 text
  ⟨fault.cause.message, line, column⟩

/-- A cause found in a decoded value, which has no place in a text. -/
def ofCause (cause : Cause) : DecodeError := ⟨cause.message, 0, 0⟩

/-- The message with the place in brackets behind it. -/
def display (e : DecodeError) : String :=
  if e.line = 0 then e.message
  else e.message ++ " (line " ++ toString e.line ++ ", column " ++ toString e.column ++ ")"

/-- The message with the place spelled out behind it. -/
def spelled (e : DecodeError) : String :=
  if e.line = 0 then e.message
  else e.message ++ " at line " ++ toString e.line ++ " column " ++ toString e.column

end DecodeError

end JsonExplorer.Json
