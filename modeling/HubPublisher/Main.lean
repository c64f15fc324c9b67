import HubPublisher.Cli.Program
import HubPublisher.Text.Uuid
import Std.Time.DateTime.Timestamp

/-!
The command line. This build has no way out to a network, so every request ends as it does when the
hub is out of reach.
-/
namespace HubPublisher.Main

/-- What went wrong with a file, by its kind. -/
def faultOf : IO.Error → FileFault
  | .noFileOrDirectory _ _ _ => .notFound
  | .inappropriateType _ code _ => if code = 20 then .notDirectory else .isDirectory
  | .permissionDenied _ _ _ => .denied
  | e => .other (toString e)

def readFile (path : String) : IO (String × Except FileFault (List UInt8)) := do
  try
    return (path, .ok (← IO.FS.readBinFile path).toList)
  catch e =>
    return (path, .error (faultOf e))

/-- The files that have been read. -/
def filesOf (read : List (String × Except FileFault (List UInt8))) : Files :=
  fun path => (read.lookup path).getD (.error .notFound)

/-- The parts of a text that can be names of variables. -/
def namesIn (octets : List UInt8) : List String :=
  let cs := Text.Utf8.decodeLossy octets
  let keys := Text.splitBy (!Cli.DotEnv.isKeyChar ·) cs
  let references := Text.splitBy (!Cli.DotEnv.Value.isNameChar ·) cs
  (keys ++ references).map String.ofList

/-- The variables that can matter: those that override settings and those that the file names. -/
def readVariables (files : Files) : IO (List (String × Option String)) := do
  let named := match files Cli.dotEnvPath with
    | .ok octets => namesIn octets
    | .error _ => []
  let names := Settings.Properties.overrides.map (·.1) ++ named
  (names.filter (!·.isEmpty)).mapM fun name => do return (name, ← IO.getEnv name)

def freshId : IO String := do
  return Text.Uuid.ofOctets (← IO.getRandomBytes 16).toList

/-- The present time in milliseconds. -/
def now : IO Int64 := do
  return Int64.ofInt (← Std.Time.Timestamp.now).toMillisecondsSinceUnixEpoch.val

end HubPublisher.Main

open HubPublisher in
def main (args : List String) : IO UInt32 := do
  let environment ← Main.readFile Cli.dotEnvPath
  let vars ← Main.readVariables (Main.filesOf [environment])
  let env (name : String) := (vars.lookup name).join
  let first ← (Cli.paths (Main.filesOf [environment]) env args).mapM Main.readFile
  let files ← (Cli.paths (Main.filesOf first) env args).mapM Main.readFile
  let output := Cli.run {
    files := Main.filesOf files
    network := fun _ => .unreachable
    freshEvent := ← Main.freshId
    freshCorrelation := ⟨← Main.freshId⟩
    now := ← Main.now } env args
  (← IO.getStdout).putStr output.stdout
  (← IO.getStderr).putStr output.stderr
  return UInt32.ofNat output.exitCode
