import JsonExplorer.Pattern.CharSet
import JsonExplorer.Pattern.ScriptTable

/-!
Character properties by name. Names are compared without regard to case, blanks, hyphens,
underscores and a leading `is`; a property of characters goes before a category, and a category
before a script.
-/

namespace JsonExplorer.Pattern

/-- The form in which names are compared. -/
def looseName (cs : List Char) : String :=
  let kept := (cs.filter fun c => c ≠ ' ' ∧ c ≠ '-' ∧ c ≠ '_' ∧ c.toNat < 128).map Char.toLower
  match cs with
  | i :: s :: _ =>
    if (i = 'i' ∨ i = 'I') ∧ (s = 's' ∨ s = 'S') ∧ kept ≠ "isc".toList then
      String.ofList (kept.drop 2)
    else String.ofList kept
  | _ => String.ofList kept

def categoryNamed? (name : String) : Option CharSet :=
  let of (wanted : Text.Category → Bool) := some (CharSet.ofCategory wanted)
  match name with
  | "any" => some (CharSet.ofRanges [(0, CharSet.last)])
  | "assigned" => some CharSet.unassigned.complement
  | "ascii" => some (CharSet.ofRanges [(0, 127)])
  | "l" | "letter" => some CharSet.letters
  | "lc" | "casedletter" => of (fun c => c matches .lu | .ll | .lt)
  | "lu" | "uppercaseletter" => of (· == .lu)
  | "ll" | "lowercaseletter" => of (· == .ll)
  | "lt" | "titlecaseletter" => of (· == .lt)
  | "lm" | "modifierletter" => of (· == .lm)
  | "lo" | "otherletter" => of (· == .lo)
  | "m" | "mark" | "combiningmark" => of (fun c => c matches .mn | .mc | .me)
  | "mn" | "nonspacingmark" => of (· == .mn)
  | "mc" | "spacingmark" => of (· == .mc)
  | "me" | "enclosingmark" => of (· == .me)
  | "n" | "number" => of (fun c => c matches .nd | .nl | .no)
  | "nd" | "decimalnumber" | "digit" => some CharSet.digits
  | "nl" | "letternumber" => of (· == .nl)
  | "no" | "othernumber" => of (· == .no)
  | "p" | "punctuation" | "punct" =>
    of (fun c => c matches .pc | .pd | .ps | .pe | .pi | .pf | .po)
  | "pc" | "connectorpunctuation" => of (· == .pc)
  | "pd" | "dashpunctuation" => of (· == .pd)
  | "ps" | "openpunctuation" => of (· == .ps)
  | "pe" | "closepunctuation" => of (· == .pe)
  | "pi" | "initialpunctuation" => of (· == .pi)
  | "pf" | "finalpunctuation" => of (· == .pf)
  | "po" | "otherpunctuation" => of (· == .po)
  | "s" | "symbol" => of (fun c => c matches .sm | .sc | .sk | .so)
  | "sm" | "mathsymbol" => of (· == .sm)
  | "sc" | "currencysymbol" => of (· == .sc)
  | "sk" | "modifiersymbol" => of (· == .sk)
  | "so" | "othersymbol" => of (· == .so)
  | "z" | "separator" => of (fun c => c matches .zs | .zl | .zp)
  | "zs" | "spaceseparator" => of (· == .zs)
  | "zl" | "lineseparator" => of (· == .zl)
  | "zp" | "paragraphseparator" => of (· == .zp)
  | "c" | "other" =>
    some ((CharSet.ofCategory (fun c => c matches .cc | .cf | .cs | .co)).union CharSet.unassigned)
  | "cc" | "control" | "cntrl" => of (· == .cc)
  | "cf" | "format" => of (· == .cf)
  | "co" | "privateuse" => of (· == .co)
  | "cn" | "unassigned" => some CharSet.unassigned
  | _ => none

def scriptNamed? (name : String) : Option CharSet :=
  (scripts.find? fun (long, short, _) => name = long ∨ name = short).map fun (_, _, rs) => ⟨rs⟩

def otherLowercase : CharSet := CharSet.diff ⟨Text.otherLowercase⟩ .later

def propertyNamed? (name : String) : Option CharSet :=
  match name with
  | "alphabetic" | "alpha" => some CharSet.alphabetic
  | "whitespace" | "wspace" | "space" => some CharSet.blanks
  | "lowercase" | "lower" =>
    some ((CharSet.ofCategory (· == .ll)).union otherLowercase)
  | "uppercase" | "upper" =>
    some ((CharSet.ofCategory (· == .lu)).union ⟨Text.otherUppercase⟩)
  | "cased" =>
    some <| (CharSet.ofCategory (fun c => c matches .lu | .ll | .lt)).union <|
      otherLowercase.union ⟨Text.otherUppercase⟩
  | "caseignorable" | "ci" =>
    some <| (CharSet.ofCategory (fun c => c matches .mn | .me | .cf | .lm | .sk)).union
      ⟨Text.otherCaseIgnorable⟩
  | "graphemeextend" | "grext" =>
    some <| (CharSet.ofCategory (fun c => c matches .mn | .me)).union ⟨Text.otherGraphemeExtend⟩
  | "joincontrol" | "joinc" => some (CharSet.ofRanges [(0x200C, 0x200D)])
  | "asciihexdigit" | "ahex" => some (CharSet.ofRanges [(48, 57), (65, 70), (97, 102)])
  | _ => none

/-- The characters that have the property, category or script of that name. -/
def named? (cs : List Char) : Option CharSet :=
  let name := looseName cs
  (propertyNamed? name).orElse fun _ => (categoryNamed? name).orElse fun _ => scriptNamed? name

def valueNamed? (property value : List Char) : Option CharSet :=
  match looseName property with
  | "generalcategory" | "gc" => categoryNamed? (looseName value)
  | "script" | "sc" | "scriptextensions" | "scx" => scriptNamed? (looseName value)
  | _ => none

end JsonExplorer.Pattern
