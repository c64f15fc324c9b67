import HubPublisher.Event.Reading
import HubPublisher.Files

/-!
Payload files on disk: the payload that a file under a path describes, or why it describes none.
-/
namespace HubPublisher.Event

/-- Why a file gives no payload. -/
inductive PayloadFileError where
  | unreadable (path : String) (fault : FileFault)
  | malformed (path : String) (fault : Json.Fault)
  | refused (e : PayloadError)

namespace PayloadFileError

def message : PayloadFileError → String
  | unreadable path _ => "cannot read payload file " ++ path
  | malformed path _ => "payload file " ++ path ++ " is not a valid event"
  | refused e => e.message

/-- The text of the error behind this one. -/
def cause : PayloadFileError → Option String
  | unreadable _ fault => some fault.message
  | malformed _ fault => some fault.message
  | refused _ => none

end PayloadFileError

namespace PayloadFile

/-- The payload file under a path. -/
def load (files : Files) (path : String) : Except PayloadFileError PayloadFile :=
  match files.text path with
  | .error e => .error (.unreadable path e)
  | .ok s =>
    match ofText s with
    | .error e => .error (.malformed path e)
    | .ok f => .ok f

/-- The payload that the file under a path describes. -/
def loadPayload (files : Files) (path : String) (fresh : String) (now : Int64) :
    Except PayloadFileError Payload :=
  match load files path with
  | .error e => .error e
  | .ok f =>
    match f.payload fresh now with
    | .error e => .error (.refused e)
    | .ok p => .ok p

end PayloadFile

end HubPublisher.Event
