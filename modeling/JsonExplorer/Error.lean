import JsonExplorer.Json.Cause
import JsonExplorer.Json.Decode
import JsonExplorer.Settings

/-!
Everything that can go wrong for a user of the program, and how it is said. In loading a document,
what cannot be read is told before what cannot be decoded.
-/

namespace JsonExplorer

inductive Error where
  | decode (fault : Json.DecodeError)
  | read (origin : String) (fault : SystemFault)
  | invalidPath (path : String)
  | workerStart (fault : SystemFault)
  | workerStopped
  | settings (fault : Settings.Fault)
  | encode (fault : Json.DecodeError)
  deriving DecidableEq, Repr

namespace Error

def message : Error → String
  | decode fault => fault.display
  | read origin fault => "failed to read `" ++ origin ++ "`: " ++ fault.message
  | invalidPath path => "invalid path `" ++ path ++ "`"
  | workerStart fault => "failed to start search worker: " ++ fault.message
  | workerStopped => "search worker is not running"
  | settings fault => "configuration error: " ++ fault.message
  | encode fault => "failed to serialize value: " ++ fault.spelled

/-- What lies behind an error, one cause behind the other. -/
def causes : Error → List String
  | read _ fault => [fault.message]
  | workerStart fault => [fault.message]
  | settings (.unreadable path fault) =>
    [(Settings.Fault.unreadable path fault).message, fault.message]
  | settings fault => [fault.message]
  | encode fault => [fault.spelled]
  | decode _ => []
  | invalidPath _ => []
  | workerStopped => []

end Error

namespace Document

def load (origin : String) (source : Source) : Except Error Value :=
  match source.text with
  | .error fault => .error (.read origin fault)
  | .ok text =>
    match decode text with
    | .ok v => .ok v
    | .error fault => .error (.decode fault)

end Document

end JsonExplorer
