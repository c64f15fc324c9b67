import HubPublisher.Files
import HubPublisher.Settings.Configuration
import HubPublisher.Toml.Reader

/-!
Settings files: TOML text with a table about logging and properties for all the rest.
-/
namespace HubPublisher.Settings

/-- What the program logs and how. -/
structure Logging where
  level : String
  format : String
  deriving DecidableEq, Repr

namespace Logging

def standard : Logging := ⟨"info", "pretty"⟩

/-- A text; a date or a time counts as one. -/
def textOf? : Toml.Value → Option String
  | .text s => some s
  | .moment s => some s
  | _ => none

/-- A text that may be missing. -/
def textOr? (default : String) : Option Toml.Value → Option String
  | none => some default
  | some v => textOf? v

/-- Logging as a table with two texts, or as an array of them in order. Other entries are passed
over, and what is missing is as in the standard. -/
def ofValue? : Toml.Value → Option Logging
  | .table entries =>
    match textOr? standard.level (entries.lookup "level"),
        textOr? standard.format (entries.lookup "format") with
    | some level, some format => some ⟨level, format⟩
    | _, _ => none
  | .array [] => some standard
  | .array [level] => (textOf? level).map fun l => ⟨l, standard.format⟩
  | .array [level, format] =>
    match textOf? level, textOf? format with
    | some l, some f => some ⟨l, f⟩
    | _, _ => none
  | _ => none

end Logging

/-- The table about logging. -/
def loggingKey : String := "logging"

/-- What a settings file says. -/
structure SettingsFile where
  logging : Logging
  properties : Properties

namespace SettingsFile

/-- The settings of a table: what stands under `logging`, and the properties of the rest. -/
def ofTable (entries : List (String × Toml.Value)) : Except ConfigError SettingsFile :=
  let rest := entries.filter (·.1 ≠ loggingKey)
  match entries.lookup loggingKey with
  | none => .ok ⟨Logging.standard, Properties.ofTable rest⟩
  | some v =>
    match Logging.ofValue? v with
    | some logging => .ok ⟨logging, Properties.ofTable rest⟩
    | none => .error (.invalidValue loggingKey "")

/-- The settings of a text. -/
def parse (s : String) : Except ConfigError SettingsFile :=
  match Toml.parse? s with
  | some entries => ofTable entries
  | none => .error (.malformed "")

/-- The settings of a file, with the environment's overrides. -/
def load (files : Files) (env : String → Option String) (path : String) :
    Except ConfigError SettingsFile :=
  match files.text path with
  | .error e => .error (.unreadable e.message)
  | .ok s => (parse s).map fun f => { f with properties := f.properties.override env }

/-- The configuration of the adapter that the settings describe. -/
def configuration (f : SettingsFile) : Except ClientError (Configuration × List Log.Event) :=
  Configuration.ofProperties f.properties

end SettingsFile

/-- The properties of a TOML text. -/
def Properties.parse (s : String) : Except ConfigError Properties :=
  match Toml.parse? s with
  | some entries => .ok (Properties.ofTable entries)
  | none => .error (.malformed "")

end HubPublisher.Settings
