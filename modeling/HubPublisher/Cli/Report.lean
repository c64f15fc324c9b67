import HubPublisher.Telemetry

/-!
What a command prints: lines for the reader and lines about errors, in the order in which they come.
-/
namespace HubPublisher.Cli

/-- A line of output. -/
inductive Line where
  | out (text : String)
  | err (text : String)
  deriving DecidableEq, Repr

/-- How a command ended. -/
inductive Ending where
  | done
  /-- The messages of the error that ended it, from what failed down to why. -/
  | failed (chain : List String)
  /-- More slots were asked for than can be counted. -/
  | crashed
  deriving DecidableEq, Repr

/-- What came of a command. -/
structure Report where
  lines : List Line
  ending : Ending
  /-- What was shown of the work on the way, requests to the hub among it. -/
  signals : List Telemetry.Signal

namespace Line

/-- A heading. -/
def heading (title : String) : List Line := [out "", out title]

/-- The width of a label. -/
def labelWidth : Nat := 24

/-- A label and its value. -/
def field (label value : String) : Line :=
  let gap := String.ofList (List.replicate (labelWidth - label.length) ' ')
  out ("  " ++ label ++ gap ++ " " ++ value)

def success (message : String) : Line := out ("ok: " ++ message)

def warning (message : String) : Line := out ("warning: " ++ message)

def error (message : String) : Line := err ("error: " ++ message)

end Line

end HubPublisher.Cli
