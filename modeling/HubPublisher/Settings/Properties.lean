import HubPublisher.Keyed
import HubPublisher.Text.Blank
import HubPublisher.Toml.Value

/-!
Properties: settings as texts under dotted keys.

A table of settings is flattened: the keys on the way to a value are joined with dots, a text stands
as it is and any other value as it would be written. A property whose text is blank reads as absent,
though it still counts as one.
-/
namespace HubPublisher.Settings

structure Properties where
  values : Keyed String

namespace Properties

def empty : Properties := ⟨Keyed.empty⟩

instance : Inhabited Properties := ⟨empty⟩

/-- Sets a property; one that is there already is replaced. -/
def insert (p : Properties) (key value : String) : Properties := ⟨p.values.insert key value⟩

/-- The text of a property, unless it is missing or blank. -/
def get? (p : Properties) (key : String) : Option String :=
  match p.values.get? key with
  | some value => if Text.isBlank value then none else some value
  | none => none

def size (p : Properties) : Nat := p.values.size

def isEmpty (p : Properties) : Bool := p.values.isEmpty

/-! ## Flattening -/

/-- A key below another one. -/
def joinKey (above : Option String) (key : String) : String :=
  match above with
  | none => key
  | some a => a ++ "." ++ key

/-- The text of a value that is no table. -/
def leafText : Toml.Value → String
  | .text s => s
  | v => v.write

mutual
/-- The values of a table that are no tables, each under its joined key, in order. -/
def leaves (above : Option String) : List (String × Toml.Value) → List (String × String)
  | [] => []
  | (key, v) :: rest => leavesOf (joinKey above key) v ++ leaves above rest
/-- The leaves under one key. -/
def leavesOf (key : String) : Toml.Value → List (String × String)
  | .table entries => leaves (some key) entries
  | v => [(key, leafText v)]
end

/-- The properties of a table. Of two leaves with one joined key the later counts. -/
def ofTable (entries : List (String × Toml.Value)) : Properties :=
  ⟨Keyed.ofList (leaves none entries)⟩

/-! ## Environment -/

/-- The variables that override a property. -/
def overrides : List (String × String) :=
  [("WEBSUBHUB_ENABLED", "adapter.websubhub.enabled"),
    ("WEBSUBHUB_BASE_URL", "adapter.websubhub.baseUrl")]

/-- Sets each property whose variable is set, be it to a blank text. -/
def override (env : String → Option String) (p : Properties) : Properties :=
  overrides.foldl (fun p o =>
    match env o.1 with
    | some value => p.insert o.2 value
    | none => p) p

end Properties

end HubPublisher.Settings
