/-!
Log events: a level, a message and named values, in the order in which they are given.
-/
namespace HubPublisher.Log

inductive Level where
  | debug
  | info
  | warn
  | error
  deriving DecidableEq, Repr

def Level.name : Level → String
  | debug => "debug"
  | info => "info"
  | warn => "warn"
  | error => "error"

/-- The value of a field. -/
inductive FieldValue where
  | text (s : String)
  | number (n : Nat)
  | flag (b : Bool)
  deriving DecidableEq, Repr

structure Event where
  level : Level
  /-- The stream that an event belongs to, if it is one of its own. -/
  target : Option String
  message : String
  fields : List (String × FieldValue)
  deriving DecidableEq, Repr

/-- An event of no stream of its own. -/
def event (level : Level) (message : String) (fields : List (String × FieldValue)) : Event :=
  ⟨level, none, message, fields⟩

/-- A field that is left out when it has no value. -/
def optional (name : String) : Option FieldValue → List (String × FieldValue)
  | none => []
  | some v => [(name, v)]

end HubPublisher.Log
