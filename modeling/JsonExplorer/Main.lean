import JsonExplorer.CommandLine

/-!
The program itself: it reads the environment and files a call needs, runs the call and prints what
comes of it.
-/

namespace JsonExplorer.CommandLine

/-- The number of a system error, which may come negated. -/
def systemNumber (code : UInt32) : Nat :=
  if code.toNat < Nat.pow 2 31 then code.toNat else UInt32.size - code.toNat

def faultOf (e : IO.Error) : SystemFault :=
  match e with
  | .noFileOrDirectory _ _ _ => .missing
  | .permissionDenied _ _ _ => .denied
  | .invalidArgument _ code details =>
    if systemNumber code = 36 then .nameTooLong else .other details
  | .inappropriateType _ code details =>
    match systemNumber code with
    | 20 => .notDirectory
    | 21 => .isDirectory
    | _ => .other details
  | other => .other (toString other)

def sourceOf (action : IO ByteArray) : IO Source := do
  match ← action.toBaseIO with
  | .ok bytes => pure (.ok bytes)
  | .error e => pure (.error (faultOf e))

/-- Reads standard input to its end. -/
partial def readInput (input : IO.FS.Stream) (before : ByteArray) : IO ByteArray := do
  let more ← input.read 65536
  if more.isEmpty then pure before else readInput input (before ++ more)

def gather (call : Call) : IO Surroundings := do
  let environment ← Settings.variableNames.mapM fun name => do
    let text ← IO.getEnv name
    pure (name, text)
  let files ← call.files.mapM fun (path : String) => do
    let source ← sourceOf (IO.FS.readBinFile path)
    pure (path, source)
  let input ←
    if FilePath.isStandardInput call.command.input then
      sourceOf (IO.getStdin >>= fun stream => readInput stream .empty)
    else pure (.ok .empty)
  pure
    { environment := fun name => (environment.lookup name).join
      read := fun path => (files.lookup path).getD (.error .missing)
      input := input }

end JsonExplorer.CommandLine

open JsonExplorer CommandLine in
def main (args : List String) : IO UInt32 := do
  let request := readCall none args
  let around ← match request with
    | .ok call => gather call
    | .error _ => pure ⟨fun _ => none, fun _ => .error .missing, .ok .empty⟩
  let result := outcome around request
  (← IO.getStdout).putStr result.output
  (← IO.getStderr).putStr result.diagnostics
  pure (UInt32.ofNat result.code)
