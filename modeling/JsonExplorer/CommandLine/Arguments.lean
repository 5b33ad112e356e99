import JsonExplorer.Query
import JsonExplorer.Text.Whole

/-!
The arguments of a call: what each command takes, and how they are read. Flags, options and operands
may come in any order; behind `--` there are only operands. An option takes its value from behind an
equals sign or from the next argument, and nothing may be given twice.
-/

namespace JsonExplorer.CommandLine

inductive Command where
  | types (input : String)
  | paths (input : String)
  | search (input : String) (query : Query) (expand : Bool)
  | children (input path : String) (offset : Nat)
  | value (input path : String) (compact : Bool)
  | tree (input : String) (expandAll : Bool) (term : Option String)

def Command.input : Command → String
  | types input => input
  | paths input => input
  | search input _ _ => input
  | children input _ _ => input
  | value input _ _ => input
  | tree input _ _ => input

structure Call where
  settingsPath : Option String
  command : Command

/-- Why there is no call to run: it asks for help or for the version, or it is misused. -/
inductive Stop where
  | help
  | version
  | misuse
  deriving DecidableEq, Repr

inductive Content where
  | path
  | text
  | whole
  deriving DecidableEq, Repr

def Content.accepts : Content → String → Bool
  | path, s => s ≠ ""
  | text, _ => true
  | whole, s => (Text.whole s.toList).toOption.isSome

structure Grammar where
  flags : List String := []
  options : List (String × Content) := []
  operands : List Content := []

/-- What has been given so far, the operands in order. -/
structure Given where
  flags : List String := []
  options : List (String × String) := []
  operands : List String := []

namespace Given

def flag (given : Given) (name : String) : Bool := given.flags.contains name

def option? (given : Given) (name : String) : Option String := given.options.lookup name

def addFlag (given : Given) (name : String) : Except Stop Given :=
  if given.flag name then .error .misuse
  else .ok { given with flags := name :: given.flags }

def addOption (given : Given) (name : String) (content : Content) (value : String) :
    Except Stop Given :=
  if (given.option? name).isSome ∨ content.accepts value = false then .error .misuse
  else .ok { given with options := (name, value) :: given.options }

def addOperand (grammar : Grammar) (given : Given) (value : String) : Except Stop Given :=
  match grammar.operands[given.operands.length]? with
  | some content =>
    if content.accepts value then .ok { given with operands := given.operands ++ [value] }
    else .error .misuse
  | none => .error .misuse

end Given

inductive Form where
  | separator
  | long (name : String) (value : Option String)
  | short (letters : List Char)
  | operand

def splitEquals (cs : List Char) : String × Option String :=
  let name := String.ofList (cs.takeWhile (· ≠ '='))
  match cs.dropWhile (· ≠ '=') with
  | _ :: value => (name, some (String.ofList value))
  | [] => (name, none)

def Form.ofText (text : String) : Form :=
  match text.toList with
  | ['-', '-'] => .separator
  | '-' :: '-' :: rest =>
    let (name, value) := splitEquals rest
    .long name value
  | '-' :: c :: rest => .short (c :: rest)
  | _ => .operand

def standsAsValue (text : String) : Bool :=
  match Form.ofText text with
  | .operand => true
  | _ => false

/-- Reads a flag or an option. Gives what has been given, and the name and kind of an option that
still lacks its value. -/
def readLong (grammar : Grammar) (given : Given) (name : String) (value : Option String) :
    Except Stop (Given × Option (String × Content)) :=
  match grammar.options.lookup name, value with
  | some content, some value => do
    let given ← given.addOption name content value
    pure (given, none)
  | some content, none => .ok (given, some (name, content))
  | none, some _ => .error .misuse
  | none, none =>
    if grammar.flags.contains name then do
      let given ← given.addFlag name
      pure (given, none)
    else if name = "help" then .error .help
    else .error .misuse

def readGiven (grammar : Grammar) (given : Given) : List String → Except Stop Given
  | [] => .ok given
  | arg :: rest =>
    match Form.ofText arg with
    | .separator => rest.foldlM (Given.addOperand grammar) given
    | .short ('h' :: _) => .error .help
    | .short _ => .error .misuse
    | .operand => do
      let given ← given.addOperand grammar arg
      readGiven grammar given rest
    | .long name value => do
      let (given, lacking) ← readLong grammar given name value
      match lacking, rest with
      | none, rest => readGiven grammar given rest
      | some _, [] => .error .misuse
      | some (name, content), next :: rest =>
        if standsAsValue next then do
          let given ← given.addOption name content next
          readGiven grammar given rest
        else .error .misuse

def settingsOption : String × Content := ("config", .path)

def grammar? : String → Option Grammar
  | "types" => some { options := [settingsOption], operands := [.path] }
  | "paths" => some { options := [settingsOption], operands := [.path] }
  | "search" => some
      { flags := ["case-sensitive", "whole-word", "regex", "expand"]
        options := [settingsOption]
        operands := [.path, .text] }
  | "children" => some
      { options := [("offset", .whole), settingsOption], operands := [.path, .text] }
  | "value" => some
      { flags := ["compact"], options := [settingsOption], operands := [.path, .text] }
  | "tree" => some
      { flags := ["expand-all"]
        options := [("search", .text), settingsOption]
        operands := [.path] }
  | _ => none

/-- The way of matching that flags choose. Whole words and patterns exclude each other. -/
def modeOf (given : Given) : Except Stop MatchMode :=
  if given.flag "regex" then
    if given.flag "whole-word" then .error .misuse else .ok .regex
  else .ok (if given.flag "whole-word" then .wholeWord else .substring)

def commandOf (name : String) (given : Given) : Except Stop Command :=
  match name, given.operands with
  | "types", [input] => .ok (.types input)
  | "paths", [input] => .ok (.paths input)
  | "search", [input, term] => do
    let mode ← modeOf given
    pure (.search input ⟨term, given.flag "case-sensitive", mode⟩ (given.flag "expand"))
  | "children", [input, path] =>
    let offset := ((given.option? "offset").bind fun s => (Text.whole s.toList).toOption).getD 0
    .ok (.children input path offset)
  | "value", [input, path] => .ok (.value input path (given.flag "compact"))
  | "tree", [input] => .ok (.tree input (given.flag "expand-all") (given.option? "search"))
  | _, _ => .error .misuse

/-- Reads what follows the name of a command. A settings file named there goes before one named in
front of the command. -/
def readCommand (settingsPath : Option String) (name : String) (args : List String) :
    Except Stop Call :=
  match grammar? name with
  | some grammar => do
    let given ← readGiven grammar {} args
    let command ← commandOf name given
    pure ⟨given.option? "config" <|> settingsPath, command⟩
  | none =>
    if name = "help" then
      match args with
      | [] => .error .help
      | [topic] =>
        if (grammar? topic).isSome ∨ topic = "help" then .error .help else .error .misuse
      | _ => .error .misuse
    else .error .misuse

/-- Whether a settings file may be named: it has a path, and none has been named before. -/
def maySettle (settingsPath : Option String) (value : String) : Bool :=
  settingsPath.isNone && Content.path.accepts value

/-- Reads the arguments of a call up to the name of its command. -/
def readCall (settingsPath : Option String) : List String → Except Stop Call
  | [] => .error .misuse
  | arg :: rest =>
    match Form.ofText arg with
    | .operand => readCommand settingsPath arg rest
    | .long "config" (some value) =>
      if maySettle settingsPath value then readCall (some value) rest else .error .misuse
    | .long "config" none =>
      match rest with
      | [] => .error .misuse
      | value :: rest =>
        if standsAsValue value && maySettle settingsPath value then readCall (some value) rest
        else .error .misuse
    | .long "version" none => .error .version
    | .long "help" none => .error .help
    | .long _ _ => .error .misuse
    | .short ('h' :: _) => .error .help
    | .short ('V' :: _) => .error .version
    | .short _ => .error .misuse
    | .separator => .error .misuse

end JsonExplorer.CommandLine
