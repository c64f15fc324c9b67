import HubPublisher.Text.Utf8

/-!
Files as a program finds them: what is read under a path, or why nothing is.
-/
namespace HubPublisher

/-- Why a file cannot be read. -/
inductive FileFault where
  | notFound
  | notDirectory
  | isDirectory
  | denied
  | notText
  /-- Any other reason, in the words of the operating system. -/
  | other (reason : String)
  deriving DecidableEq, Repr

def FileFault.message : FileFault → String
  | notFound => "No such file or directory (os error 2)"
  | notDirectory => "Not a directory (os error 20)"
  | isDirectory => "Is a directory (os error 21)"
  | denied => "Permission denied (os error 13)"
  | notText => "stream did not contain valid UTF-8"
  | other reason => reason

/-- What is read under each path. -/
abbrev Files := String → Except FileFault (List UInt8)

/-- Where there are no files. -/
def Files.empty : Files := fun _ => .error .notFound

/-- The text of a file, which has to be UTF-8. -/
def Files.text (files : Files) (path : String) : Except FileFault String :=
  match files path with
  | .error e => .error e
  | .ok octets =>
    match Text.Utf8.decode? octets with
    | some cs => .ok (String.ofList cs)
    | none => .error .notText

end HubPublisher
