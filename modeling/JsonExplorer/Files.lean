import JsonExplorer.Entries

/-!
Files as far as the program sees them: what a path says by its text, why a file cannot be read,
and a tree of files held in memory.
-/

namespace JsonExplorer

/-- Why the system gives no bytes, or none that are text. -/
inductive SystemFault where
  | missing
  | isDirectory
  | notDirectory
  | denied
  | nameTooLong
  | nulInName
  | notText
  | other (text : String)
  deriving DecidableEq, Repr

def SystemFault.message : SystemFault → String
  | missing => "No such file or directory (os error 2)"
  | isDirectory => "Is a directory (os error 21)"
  | notDirectory => "Not a directory (os error 20)"
  | denied => "Permission denied (os error 13)"
  | nameTooLong => "File name too long (os error 36)"
  | nulInName => "file name contained an unexpected NUL byte"
  | notText => "stream did not contain valid UTF-8"
  | other text => text

/-- Bytes read to their end, or why they could not be. -/
abbrev Source := Except SystemFault ByteArray

def Source.text (source : Source) : Except SystemFault String := do
  let bytes ← source
  match String.fromUTF8? bytes with
  | some text => pure text
  | none => throw .notText

namespace FilePath

def splitSlashes : List Char → List (List Char)
  | [] => [[]]
  | c :: rest =>
    match splitSlashes rest with
    | part :: parts => if c = '/' then [] :: part :: parts else (c :: part) :: parts
    | [] => []

/-- The parts of a path between slashes, empty ones included. -/
def parts (path : String) : List String := (splitSlashes path.toList).map String.ofList

/-- The last part that names something; a dot there stands for nothing. -/
def fileName? (path : String) : Option String :=
  match ((parts path).filter fun part => part ≠ "" ∧ part ≠ ".").getLast? with
  | some ".." => none
  | last => last

/-- What stands behind the last dot of a name, unless that dot is its only one and comes first. -/
def extensionChars? (name : List Char) : Option (List Char) :=
  let backward := name.reverse
  let ending := backward.takeWhile (· ≠ '.')
  if ending.length + 1 < name.length then some ending.reverse else none

def extension? (path : String) : Option String :=
  (fileName? path).bind fun name => (extensionChars? name.toList).map String.ofList

/-- Whether a path stands for standard input: a lone hyphen, slashes and dots behind it aside. -/
def isStandardInput (path : String) : Bool :=
  match parts path with
  | first :: rest => first = "-" && rest.all fun part => part = "" || part = "."
  | [] => false

end FilePath

/-- Files and directories in memory, each by the parts of its path from the top. What lies above one
of them is a directory. -/
structure FileTree where
  files : List (List String × ByteArray) := []
  directories : List (List String) := []
  /-- The directory from which paths go that do not begin at the top. -/
  current : List String := []

namespace FileTree

inductive Place where
  | file (bytes : ByteArray)
  | directory
  | nothing

def place (tree : FileTree) (trail : List String) : Place :=
  match tree.files.lookup trail with
  | some bytes => .file bytes
  | none =>
    let known := tree.current :: tree.directories ++ tree.files.map (·.1)
    if trail.isEmpty || known.any trail.isPrefixOf then .directory else .nothing

/-- The longest name, in bytes, that a file can have. -/
def nameLimit : Nat := 255

/-- The length in bytes from which on a path is refused. -/
def pathLimit : Nat := 4096

/-- Follows the parts of a path from a place in the tree. The top is above itself. -/
def walk (tree : FileTree) (trail : List String) : List String → Source
  | [] =>
    match tree.place trail with
    | .file bytes => .ok bytes
    | .directory => .error .isDirectory
    | .nothing => .error .missing
  | part :: rest =>
    match tree.place trail with
    | .file _ => .error .notDirectory
    | .nothing => .error .missing
    | .directory =>
      if part = "" ∨ part = "." then tree.walk trail rest
      else if part = ".." then tree.walk trail.dropLast rest
      else if nameLimit < part.utf8ByteSize then .error .nameTooLong
      else tree.walk (trail ++ [part]) rest

def read (tree : FileTree) (path : String) : Source :=
  if path.toList.contains '\x00' then .error .nulInName
  else if path = "" then .error .missing
  else if pathLimit ≤ path.utf8ByteSize then .error .nameTooLong
  else match FilePath.parts path with
    | "" :: rest => tree.walk [] rest
    | parts => tree.walk tree.current parts

end FileTree

end JsonExplorer
