import JsonExplorer.Json.Decode

/-!
Passing over a value that is of no interest. Only its outline is checked: numbers may be of any
size, escapes need not be characters, and nesting has no limit.
-/

namespace JsonExplorer.Json

/-- Passes over the inside of a string and its closing quote; a `clock` longer than the text is
enough. -/
def skipStringFrom : List Char → List Char → Scan (List Char)
  | [], cs => .error (.on .endInString cs)
  | _ :: clock, cs =>
    match cs with
    | [] => .error (.on .endInString [])
    | '"' :: rest => .ok rest
    | '\\' :: rest =>
      match rest with
      | [] => .error (.on .endInString [])
      | 'u' :: more => do
        let (_, rest) ← scanHex more
        skipStringFrom clock rest
      | e :: more =>
        if (shortEscape? e).isSome then skipStringFrom clock more
        else .error (.on .invalidEscape rest)
    | c :: rest =>
      if c.toNat < 32 then .error (.after .controlCharacter cs) else skipStringFrom clock rest

def skipString (cs : List Char) : Scan (List Char) := skipStringFrom ('"' :: cs) cs

def skipExponent (cs : List Char) : Scan (List Char) :=
  let cs := match cs with
    | '+' :: rest | '-' :: rest => rest
    | _ => cs
  match cs with
  | [] => .error (.on .invalidNumber [])
  | c :: rest =>
    if c.isDigit then .ok (rest.dropWhile Char.isDigit) else .error (.on .invalidNumber cs)

def skipMaybeExponent (cs : List Char) : Scan (List Char) :=
  match cs with
  | 'e' :: rest | 'E' :: rest => skipExponent rest
  | _ => .ok cs

def skipNumber (cs : List Char) : Scan (List Char) :=
  let afterWhole (rest : List Char) : Scan (List Char) :=
    match rest with
    | '.' :: more =>
      match more with
      | [] => .error (.on .invalidNumber [])
      | c :: _ =>
        if c.isDigit then skipMaybeExponent (more.dropWhile Char.isDigit)
        else .error (.on .invalidNumber more)
    | _ => skipMaybeExponent rest
  match cs with
  | [] => .error (.on .invalidNumber [])
  | c :: rest =>
    if c = '0' then
      match rest with
      | d :: _ => if d.isDigit then .error (.on .invalidNumber rest) else afterWhole rest
      | [] => afterWhole []
    else if c.isDigit then afterWhole (rest.dropWhile Char.isDigit)
    else .error (.on .invalidNumber cs)

inductive Open where
  | list
  | object

mutual

/-- Passes over a value and over all that the open containers, innermost first, still hold. -/
def skipValue : Nat → List Open → List Char → Scan (List Char)
  | 0, _, cs => .error (.on .endInValue cs)
  | fuel + 1, frames, cs =>
    match skipSpace cs with
    | [] => .error (.on .endInValue [])
    | c :: rest => do
      if c = 'n' then skipOn fuel true frames (← scanWord ['u', 'l', 'l'] rest)
      else if c = 't' then skipOn fuel true frames (← scanWord ['r', 'u', 'e'] rest)
      else if c = 'f' then skipOn fuel true frames (← scanWord ['a', 'l', 's', 'e'] rest)
      else if c = '-' then skipOn fuel true frames (← skipNumber rest)
      else if c.isDigit then skipOn fuel true frames (← skipNumber (c :: rest))
      else if c = '"' then skipOn fuel true frames (← skipString rest)
      else if c = '[' then skipOn fuel false (.list :: frames) rest
      else if c = '\x7b' then skipOn fuel false (.object :: frames) rest
      else .error (.on .expectedValue (c :: rest))

/-- Goes on inside the innermost container, behind an item (`behind`) or at its start. -/
def skipOn : Nat → Bool → List Open → List Char → Scan (List Char)
  | 0, _, _, cs => .error (.on .endInValue cs)
  | _, _, [], cs => .ok cs
  | fuel + 1, behind, .list :: frames, cs =>
    match skipSpace cs with
    | ']' :: rest => skipOn fuel true frames rest
    | [] => .error (.on .endInList [])
    | ',' :: rest => skipValue fuel (.list :: frames) (if behind then rest else ',' :: rest)
    | rest =>
      if behind then .error (.on .expectedCommaOrBracket rest)
      else skipValue fuel (.list :: frames) rest
  | fuel + 1, behind, .object :: frames, cs =>
    match skipSpace cs with
    | '\x7d' :: rest => skipOn fuel true frames rest
    | [] => .error (.on .endInObject [])
    | ',' :: rest => skipKey fuel frames (if behind then rest else ',' :: rest)
    | rest =>
      if behind then .error (.on .expectedCommaOrBrace rest) else skipKey fuel frames rest

def skipKey : Nat → List Open → List Char → Scan (List Char)
  | 0, _, cs => .error (.on .endInValue cs)
  | fuel + 1, frames, cs =>
    match skipSpace cs with
    | '"' :: rest => do
      let rest ← skipString rest
      let rest ← scanColon rest
      skipValue fuel (.object :: frames) rest
    | [] => .error (.on .endInObject [])
    | rest => .error (.on .keyNotString rest)

end

def skipOne (cs : List Char) : Scan (List Char) := skipValue (4 * cs.length + 4) [] cs

end JsonExplorer.Json
