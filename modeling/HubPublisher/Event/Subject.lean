import HubPublisher.Json.Value

/-!
Subjects: whom or what an event is about, in one of seven formats.

A format names the properties its subjects have. A subject is made from their values in order, and
is written as an object with the format first and the properties after it.
-/
namespace HubPublisher.Event

inductive SubjectFormat where
  | email
  | phoneNumber
  | account
  | issuerSubject
  | opaqueId
  | did
  | uri
  deriving DecidableEq, Repr

namespace SubjectFormat

/-- The formats in the order in which messages list them. -/
def all : List SubjectFormat := [email, phoneNumber, account, issuerSubject, opaqueId, did, uri]

/-- The name of a format in a written subject. -/
def name : SubjectFormat → String
  | email => "email"
  | phoneNumber => "phone_number"
  | account => "account"
  | issuerSubject => "iss_sub"
  | opaqueId => "opaque"
  | did => "did"
  | uri => "uri"

/-- The name of a format in a message about a subject of it. -/
def title : SubjectFormat → String
  | email => "Email"
  | phoneNumber => "PhoneNumber"
  | account => "Account"
  | issuerSubject => "IssSub"
  | opaqueId => "Opaque"
  | did => "Did"
  | uri => "Uri"

/-- The names of the properties, in order. -/
def properties : SubjectFormat → List String
  | email => ["email"]
  | phoneNumber => ["phone_number"]
  | account => ["uri"]
  | issuerSubject => ["iss", "sub"]
  | opaqueId => ["id"]
  | did => ["did"]
  | uri => ["uri"]

def ofName? (s : String) : Option SubjectFormat := all.find? (·.name == s)

theorem ofName?_name (f : SubjectFormat) : ofName? f.name = some f := by cases f <;> rfl

end SubjectFormat

inductive Subject where
  | email (address : String)
  | phoneNumber (number : String)
  | account (uri : String)
  | issuerSubject (iss sub : String)
  | opaqueId (id : String)
  | did (did : String)
  | uri (uri : String)
  deriving DecidableEq, Repr

namespace Subject

def format : Subject → SubjectFormat
  | email _ => .email
  | phoneNumber _ => .phoneNumber
  | account _ => .account
  | issuerSubject _ _ => .issuerSubject
  | opaqueId _ => .opaqueId
  | did _ => .did
  | uri _ => .uri

/-- The values of the properties, in order. -/
def values : Subject → List String
  | email s => [s]
  | phoneNumber s => [s]
  | account s => [s]
  | issuerSubject i s => [i, s]
  | opaqueId s => [s]
  | did s => [s]
  | uri s => [s]

/-- The subject with the given values; one that is missing is the empty text. -/
def ofValues (f : SubjectFormat) (vs : List String) : Subject :=
  let first := vs.headD ""
  match f with
  | .email => email first
  | .phoneNumber => phoneNumber first
  | .account => account first
  | .issuerSubject => issuerSubject first ((vs.drop 1).headD "")
  | .opaqueId => opaqueId first
  | .did => did first
  | .uri => uri first

/-- A subject whose values are all given: an empty one makes no subject. -/
def make? (f : SubjectFormat) (vs : List String) : Option Subject :=
  let s := ofValues f vs
  if s.values.all (· ≠ "") then some s else none

theorem ofValues_values (s : Subject) : ofValues s.format s.values = s := by cases s <;> rfl

theorem length_values (s : Subject) : s.values.length = s.format.properties.length := by
  cases s <;> rfl

/-- The subject as a JSON value. -/
def json (s : Subject) : Json.Value :=
  .object (("format", .text s.format.name)
    :: s.format.properties.zipWith (fun k v => (k, Json.Value.text v)) s.values)

end Subject

end HubPublisher.Event
