import HubPublisher.Cli.Command
import HubPublisher.Cli.DotEnv

/-!
The program from its arguments to its output: the environment is completed from a file, the
arguments name a settings file and a command, and the command reports.
-/
namespace HubPublisher.Cli

open Settings (SettingsFile)

/-- What the program writes and the code it ends with. -/
structure Output where
  exitCode : Nat
  stdout : String
  stderr : String
  signals : List Telemetry.Signal

/-- The name and version of the program. -/
def versionLine : String := "websubhub 0.1.0"

def helpText : String := "\n".intercalate [
  "Publish security events to a WebSub hub and manage hub topics",
  "",
  "Usage: websubhub [OPTIONS] <COMMAND>",
  "",
  "Commands:",
  "  publish     Publish a security event token read from a JSON file",
  "  register    Register the hub topic for an event type",
  "  deregister  Deregister the hub topic for an event type",
  "  check       Print the resolved adapter configuration",
  "  help        Print this message or the help of the given subcommand(s)",
  "",
  "Options:",
  "  -c, --config <CONFIG>  Path to the configuration file [default: websubhub.toml]",
  "  -h, --help             Print help",
  "  -V, --version          Print version"]

/-- The text on the way out. -/
def Line.out? : Line → Option String
  | out s => some (s ++ "\n")
  | err _ => none

/-- The text about errors. -/
def Line.err? : Line → Option String
  | out _ => none
  | err s => some (s ++ "\n")

/-- The lines of a report; an error that ended the command comes last. -/
def Report.allLines (r : Report) : List Line :=
  match r.ending with
  | .failed chain => r.lines ++ [.error (": ".intercalate chain)]
  | _ => r.lines

def Report.stdout (r : Report) : String := String.join (r.allLines.filterMap Line.out?)

def Report.stderr (r : Report) : String := String.join (r.allLines.filterMap Line.err?)

def Report.exitCode (r : Report) : Nat :=
  match r.ending with
  | .done => 0
  | .failed _ => 1
  | .crashed => 101

/-- The output about arguments that give no command. -/
def usageOutput (e : UsageFault) : Output :=
  match e with
  | .help => ⟨e.exitCode, helpText ++ "\n", "", []⟩
  | .version => ⟨e.exitCode, versionLine ++ "\n", "", []⟩
  | e => ⟨e.exitCode, "", "error: " ++ e.message ++ "\n\n" ++ helpText ++ "\n", []⟩

/-- The file that completes the environment. -/
def dotEnvPath : String := ".env"

/-- The environment with what a file adds to it, if there is one. -/
def environment (files : Files) (env : String → Option String) : String → Option String :=
  match files dotEnvPath with
  | .ok octets => DotEnv.extend octets env
  | .error _ => env

/-- The files that the program reads, as far as the files read so far tell. -/
def paths (files : Files) (env : String → Option String) (args : List String) : List String :=
  match Invocation.ofArguments args with
  | .error _ => [dotEnvPath]
  | .ok invocation =>
    let payload := match invocation.command with
      | .publish args => [args.payload]
      | _ => []
    let trust := match SettingsFile.load files (environment files env) invocation.config with
      | .error _ => []
      | .ok settings => (settings.properties.get? Settings.Configuration.trustStoreKey).toList
    [dotEnvPath, invocation.config] ++ payload ++ trust

/-- Runs the program. -/
def run (w : Surroundings) (env : String → Option String) (args : List String) : Output :=
  match Invocation.ofArguments args with
  | .error e => usageOutput e
  | .ok invocation =>
    match SettingsFile.load w.files (environment w.files env) invocation.config with
    | .error e =>
      ⟨1, "", "Failed to load config " ++ invocation.config ++ ": " ++ e.message ++ "\n", []⟩
    | .ok settings =>
      let report := invocation.command.run w settings
      ⟨report.exitCode, report.stdout, report.stderr, report.signals⟩

end HubPublisher.Cli
