import Std.Data.HashSet
import JsonExplorer.CommandLine.Arguments
import JsonExplorer.Error
import JsonExplorer.Session
import JsonExplorer.Worker

/-!
A call of the program as a function of its arguments and of what it sees of the machine. What it
needs of files is asked for by path, so a caller can read those files beforehand.
-/

namespace JsonExplorer.CommandLine

/-- What a call sees of the machine. -/
structure Surroundings where
  environment : String → Option String
  read : String → Source
  input : Source

structure Outcome where
  code : Nat := 0
  output : String := ""
  diagnostics : String := ""
  deriving DecidableEq, Repr

def lines (ls : List String) : String := String.join (ls.map (· ++ "\n"))

/-- Why a call fails: what it was about, if that is told, and the error. -/
structure Failure where
  task : Option String
  error : Error

/-- What is told of a failure, the outermost first. -/
def Failure.chain (f : Failure) : List String :=
  f.task.toList ++ f.error.message :: f.error.causes

/-- A cause behind its number, with its further lines moved in as well. -/
def numbered (number : Nat) (cause : String) : String :=
  "    " ++ toString number ++ ": " ++ cause.replace "\n" "\n       "

/-- The report of a failure. Causes are numbered if there is more than one. -/
def Failure.report (f : Failure) : String :=
  match f.chain with
  | [] => ""
  | [top] => "Error: " ++ top ++ "\n"
  | [top, cause] =>
    "Error: " ++ top ++ "\n\nCaused by:\n    " ++ cause.replace "\n" "\n    " ++ "\n"
  | top :: causes =>
    "Error: " ++ top ++ "\n\nCaused by:\n"
      ++ lines (causes.zipIdx.map fun (cause, n) => numbered n cause)

/-- How the search of a call is carried out: by a worker, or at once. -/
def handling (settings : Settings) : SearchRequest → Handling :=
  if settings.offloadSearch then Worker.handling {}
  else fun request => ⟨.sent (Search.execute request), true⟩

/-- The coordinator when a worker has answered all that is outstanding. -/
def answered (c : Coordinator) : Coordinator :=
  ((Worker.collect {} c 0).drain (fun request => some (Search.execute request)) c).2

def searched (settings : Settings) (document : Value) (query : Query) : SearchResult :=
  (answered (({} : Coordinator).search document query (handling settings)).2).published

def treeSession (settings : Settings) (document : Value) (expandAll : Bool)
    (term : Option String) : Session :=
  let start : Session :=
    { rootTypeName := settings.rootTypeName, previewLimit := settings.previewLimit }
  let s := start.setDocument document (handling settings)
  let s := if expandAll then s.expandAll else s
  match term with
  | none => s
  | some term =>
    let s := (s.search { term := term } (handling settings)).2
    { s with coordinator := answered s.coordinator }.refresh.2

/-- A row with its mark: `-` for an open container, `+` for a closed one. -/
def rowLine (isOpen : String → Bool) (row : Outline.Row) : String :=
  let mark := if row.isLeaf then " " else if isOpen row.path then "-" else "+"
  String.ofList (List.replicate (2 * row.depth) ' ') ++ mark ++ " " ++ row.name ++ ": "
    ++ row.preview

def childLine (child : Outline.Child) : String :=
  child.path ++ "\t" ++ child.kind.title ++ "\t" ++ child.preview

def answer (settings : Settings) (document : Value) : Command → Except Error Outcome
  | .types _ => .ok { output := (Inference.ofValue document).render settings.rootTypeName ++ "\n" }
  | .paths _ => .ok { output := lines (Search.expandablePaths document) }
  | .search _ query expand =>
    let result := searched settings document query
    let opened := if expand then result.expand.map ("expand " ++ ·) else []
    .ok
      { output := lines (result.paths ++ opened)
        diagnostics := toString result.count ++ " match(es)\n" }
  | .children _ path offset =>
    match Outline.page? document path offset settings.pageSize (some settings.previewLimit) with
    | some children => .ok { output := lines (children.map childLine) }
    | none => .error (.invalidPath path)
  | .value _ path compact =>
    match Outline.nodeText? document path (!compact) with
    | some text => .ok { output := text ++ "\n" }
    | none => .error (.invalidPath path)
  | .tree _ expandAll term =>
    let s := treeSession settings document expandAll term
    let opened := Std.HashSet.ofList (s.expanded ++ s.autoExpanded)
    .ok { output := lines (s.visibleRows.map (rowLine fun path => opened.contains path)) }

/-- The document a command is about. A hyphen stands for standard input. -/
def document (around : Surroundings) (input : String) : Except Error Value :=
  if FilePath.isStandardInput input then Document.load "stdin" around.input
  else Document.load input (around.read input)

/-- Carries out a call: its settings come first, then its document. -/
def perform (around : Surroundings) (call : Call) : Except Failure Outcome := do
  let settings ←
    (Settings.load around.environment around.read call.settingsPath).mapError fun fault =>
      ⟨some "loading configuration", .settings fault⟩
  let input := call.command.input
  let document ← (document around input).mapError fun error =>
    ⟨some ("failed to load `" ++ input ++ "`"), error⟩
  (answer settings document call.command).mapError fun error => ⟨none, error⟩

def versionText : String := "jason-lens 0.1.0\n"

def helpText : String :=
  lines
    [ "Type inference and tree search for JSON documents"
    , ""
    , "Usage: jason-lens [OPTIONS] <COMMAND>"
    , ""
    , "Commands:"
    , "  types     Print the inferred type declarations of a JSON file"
    , "  paths     Print the path of every object and array"
    , "  search    Print the paths matching a search term"
    , "  children  List one page of the direct children of a node"
    , "  value     Print the JSON text of a node"
    , "  tree      Print the tree rows that would be visible"
    , "  help      Print this message or the help of the given subcommand(s)"
    , ""
    , "Options:"
    , "      --config <CONFIG>  Optional TOML configuration file"
    , "  -h, --help             Print help"
    , "  -V, --version          Print version" ]

def misuseText : String := "error: unusable arguments\n\nFor more information, try '--help'.\n"

def outcome (around : Surroundings) : Except Stop Call → Outcome
  | .error .help => { output := helpText }
  | .error .version => { output := versionText }
  | .error .misuse => { code := 2, diagnostics := misuseText }
  | .ok call =>
    match perform around call with
    | .ok result => result
    | .error failure => { code := 1, diagnostics := failure.report }

def run (around : Surroundings) (args : List String) : Outcome :=
  outcome around (readCall none args)

/-- The paths of the files a call may read. -/
def Call.files (call : Call) : List String :=
  let input := call.command.input
  call.settingsPath.toList ++ if FilePath.isStandardInput input then [] else [input]

end JsonExplorer.CommandLine
