import HubPublisher.Url.Address
import HubPublisher.Url.Form

/-!
URLs by their parts, and their text.

The parts are kept as the text shows them: percent encoded, with the default port of the scheme
left out. So a URL is read once, and every part of it is written back as it was read.
-/
namespace HubPublisher.Url

/-- A host: a name, or an address of version 4 or 6. -/
inductive Host where
  | name (text : String)
  | address (n : Nat)
  | pieces (ps : List Nat)
  deriving DecidableEq, Repr

def Host.write : Host → String
  | name text => text
  | address n => writeAddress n
  | pieces ps => "[" ++ writePieces ps ++ "]"

/-- What stands between two slashes and the path. -/
structure Authority where
  username : String
  /-- Empty if there is none. -/
  password : String
  /-- Absent where the text has an empty host. -/
  host : Option Host
  port : Option Nat
  deriving DecidableEq, Repr

/-- The port that a scheme stands for. -/
def defaultPort (scheme : String) : Option Nat :=
  if scheme = "http" ∨ scheme = "ws" then some 80
  else if scheme = "https" ∨ scheme = "wss" then some 443
  else if scheme = "ftp" then some 21
  else none

/-- The schemes whose URLs always have a host. -/
def isSpecial (scheme : String) : Bool := (defaultPort scheme).isSome

namespace Authority

/-- User name and password, with the sign after them. -/
def writeUser (a : Authority) : String :=
  if a.username = "" ∧ a.password = "" then ""
  else a.username ++ (if a.password = "" then "" else ":" ++ a.password) ++ "@"

def writeHost (a : Authority) : String := (a.host.map Host.write).getD ""

def writePort (a : Authority) : String :=
  match a.port with
  | none => ""
  | some p => ":" ++ toString p

/-- The authority with the slashes before it. -/
def write (a : Authority) : String := "//" ++ a.writeUser ++ a.writeHost ++ a.writePort

def withoutUser (a : Authority) : Authority := { a with username := "", password := "" }

end Authority

end HubPublisher.Url

namespace HubPublisher

structure Url where
  scheme : String
  authority : Option Url.Authority
  /-- The path as the text shows it. -/
  path : String
  query : Option String
  fragment : Option String
  deriving DecidableEq, Repr

namespace Url

/-- What stands between the scheme and the path: the authority, or a dot that keeps a path with two
slashes at its start from being taken for one. -/
def writeAuthority (u : Url) : String :=
  match u.authority with
  | some a => a.write
  | none => if u.path.startsWith "//" then "/." else ""

def writeQuery (u : Url) : String :=
  match u.query with
  | none => ""
  | some q => "?" ++ q

def writeFragment (u : Url) : String :=
  match u.fragment with
  | none => ""
  | some f => "#" ++ f

/-- The text of a URL. -/
def write (u : Url) : String :=
  u.scheme ++ ":" ++ u.writeAuthority ++ u.path ++ u.writeQuery ++ u.writeFragment

/-- The URL without user name and password. -/
def withoutUser (u : Url) : Url := { u with authority := u.authority.map Authority.withoutUser }

def host (u : Url) : Option Host := u.authority.bind (·.host)

/-- The pairs of the query. -/
def queryPairs (u : Url) : List (String × String) := Form.read (u.query.getD "").toList

/-- A query with pairs put behind it, with an ampersand before each unless the query is empty. -/
def appendPairs (query : String) : List (String × String) → String
  | [] => query
  | p :: rest =>
    let sep := if query = "" then "" else "&"
    appendPairs (query ++ sep ++ String.ofList (Form.encodePair p)) rest

/-- The URL with pairs put behind its query. -/
def withPairs (u : Url) (pairs : List (String × String)) : Url :=
  { u with query := some (appendPairs (u.query.getD "") pairs) }

end Url

end HubPublisher
