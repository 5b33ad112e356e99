import JsonExplorer.Files
import JsonExplorer.Path
import JsonExplorer.Text.Case
import JsonExplorer.Text.Whole
import JsonExplorer.Toml.Document

/-!
Settings of the program. A variable of the environment goes before the settings file, and that
before the built-in choice. A settings file that is missing counts as empty.
-/

namespace JsonExplorer

/-- All settings; `searchTimeoutMs` is the time limit of a search in milliseconds, with zero for
none. -/
structure Settings where
  rootTypeName : String := Path.root
  searchTimeoutMs : Nat := 5000
  offloadSearch : Bool := true
  logFilter : String := "warn"
  pageSize : Nat := 100
  previewLimit : Nat := 120
  deriving DecidableEq, Repr

namespace Settings

def searchTimeout? (s : Settings) : Option Nat :=
  if s.searchTimeoutMs = 0 then none else some s.searchTimeoutMs

inductive Fault where
  | badVariable (field name reason : String)
  | noExtension (path : String)
  | unknownFormat (path : String)
  | unreadable (path : String) (cause : SystemFault)
  | malformed (path : String)
  deriving DecidableEq, Repr

def Fault.message : Fault → String
  | badVariable field name reason =>
    "failed to deserialize value `Config::" ++ field ++ "` from environment variable `"
      ++ name ++ "`: " ++ reason
  | noExtension path =>
    "cannot guess configuration file format due to missing file extension in '" ++ path ++ "'"
  | unknownFormat path => "unknown configuration file format/extension: '" ++ path ++ "'"
  | unreadable path _ => "IO error occured while reading configuration file '" ++ path ++ "'"
  | malformed path => "failed to deserialize configuration from file '" ++ path ++ "'"

/-- What one place says about the settings. -/
structure Layer where
  rootTypeName : Option String := none
  searchTimeoutMs : Option Nat := none
  offloadSearch : Option Bool := none
  logFilter : Option String := none
  pageSize : Option Nat := none
  previewLimit : Option Nat := none

/-- What `first` says, and where it is silent what `second` says. -/
def Layer.over (first second : Layer) : Layer :=
  { rootTypeName := first.rootTypeName <|> second.rootTypeName
    searchTimeoutMs := first.searchTimeoutMs <|> second.searchTimeoutMs
    offloadSearch := first.offloadSearch <|> second.offloadSearch
    logFilter := first.logFilter <|> second.logFilter
    pageSize := first.pageSize <|> second.pageSize
    previewLimit := first.previewLimit <|> second.previewLimit }

/-- The settings with the built-in choices wherever a layer is silent. -/
def ofLayer (l : Layer) : Settings :=
  let builtIn : Settings := {}
  { rootTypeName := l.rootTypeName.getD builtIn.rootTypeName
    searchTimeoutMs := l.searchTimeoutMs.getD builtIn.searchTimeoutMs
    offloadSearch := l.offloadSearch.getD builtIn.offloadSearch
    logFilter := l.logFilter.getD builtIn.logFilter
    pageSize := l.pageSize.getD builtIn.pageSize
    previewLimit := l.previewLimit.getD builtIn.previewLimit }

/-- A whole number in a variable; blanks around it do not count. -/
def wholeOf (text : String) : Except String Nat :=
  let trimmed := Text.trim text
  match Text.whole trimmed.toList with
  | .ok n => .ok n
  | .error fault =>
    .error ("invalid value '" ++ trimmed ++ "' for type u64: " ++ fault.message)

/-- A truth value in a variable, in any case; blanks around it do not count. -/
def truthOf (text : String) : Except String Bool :=
  let trimmed := Text.trim text
  let word := String.ofList (trimmed.toList.map Char.toLower)
  if word ∈ ["1", "true", "yes"] then .ok true
  else if word ∈ ["0", "false", "no"] then .ok false
  else .error ("invalid value for bool: '" ++ trimmed ++ "'")

def readVariable {α : Type} (read : String → Except String α) (environment : String → Option String)
    (field name : String) : Except Fault (Option α) :=
  match environment name with
  | none => .ok none
  | some text =>
    match read text with
    | .ok a => .ok (some a)
    | .error reason => .error (.badVariable field name reason)

def variableNames : List String :=
  [ "JASON_LENS_ROOT_TYPE_NAME", "JASON_LENS_SEARCH_TIMEOUT_MS", "JASON_LENS_OFFLOAD_SEARCH"
  , "JASON_LENS_LOG" ]

def Layer.ofVariables (environment : String → Option String) : Except Fault Layer := do
  let rootTypeName ←
    readVariable .ok environment "root_type_name" "JASON_LENS_ROOT_TYPE_NAME"
  let searchTimeoutMs ←
    readVariable wholeOf environment "search_timeout_ms" "JASON_LENS_SEARCH_TIMEOUT_MS"
  let offloadSearch ←
    readVariable truthOf environment "offload_search" "JASON_LENS_OFFLOAD_SEARCH"
  let logFilter ← readVariable .ok environment "log_filter" "JASON_LENS_LOG"
  pure
    { rootTypeName := rootTypeName
      searchTimeoutMs := searchTimeoutMs
      offloadSearch := offloadSearch
      logFilter := logFilter }

def textOf : Toml.Node → Option String
  | .string s => some s
  | _ => none

def countOf : Toml.Node → Option Nat
  | .integer (.ofNat n) => some n
  | _ => none

def flagOf : Toml.Node → Option Bool
  | .boolean b => some b
  | _ => none

/-- The field of a table under a key: nothing if the key is absent, a failure if the field is of
another kind. -/
def field? {α : Type} (read : Toml.Node → Option α) (t : Toml.Table) (key : String) :
    Option (Option α) :=
  match Entries.get? t key with
  | none => some none
  | some node => (read node).map some

/-- The layer of a settings file. Keys that are not known do not count. -/
def Layer.ofTable? (t : Toml.Table) : Option Layer := do
  let rootTypeName ← field? textOf t "root_type_name"
  let searchTimeoutMs ← field? countOf t "search_timeout_ms"
  let offloadSearch ← field? flagOf t "offload_search"
  let logFilter ← field? textOf t "log_filter"
  let pageSize ← field? countOf t "page_size"
  let previewLimit ← field? countOf t "preview_limit"
  pure ⟨rootTypeName, searchTimeoutMs, offloadSearch, logFilter, pageSize, previewLimit⟩

/-- The layer of the file at `path`. The name of the file tells its format before it is opened. -/
def Layer.ofFile (read : String → Source) (path : String) : Except Fault Layer :=
  match FilePath.extension? path with
  | none => .error (.noExtension path)
  | some "toml" =>
    match read path with
    | .error .missing => .ok {}
    | .error fault => .error (.unreadable path fault)
    | .ok bytes =>
      match (String.fromUTF8? bytes).bind fun text => (Toml.parse? text).bind Layer.ofTable? with
      | some layer => .ok layer
      | none => .error (.malformed path)
  | some _ => .error (.unknownFormat path)

/-- Loads the settings from the environment and, if a path is given, a file. What is wrong with the
environment is told first. -/
def load (environment : String → Option String) (read : String → Source) (path : Option String) :
    Except Fault Settings := do
  let first ← Layer.ofVariables environment
  match path with
  | none => pure (ofLayer first)
  | some path => do
    let second ← Layer.ofFile read path
    pure (ofLayer (first.over second))

end Settings

end JsonExplorer
