import HubPublisher.Event.Payload
import HubPublisher.Json.Record

/-!
Reading claims, subjects and payloads from JSON text.

Nothing is checked here beyond the shape: an empty issuer and the null members of event claims are
read as they stand. Of two events with one type the later counts.
-/
namespace HubPublisher.Event

open Json (Fault Reader RecordField Shape)

/-- Event claims as they are kept: sorted, each type once. -/
def eventsOfMembers (members : List (String × Json.Value)) : Keyed Json.Value :=
  Keyed.ofList (members.map fun m => (m.1, m.2.sorted))

/-! ## Claims -/

/-- Claims as far as they have been read. -/
structure PartialClaims where
  iss : Option String
  jti : Option String
  iat : Option Int64
  aud : Option String
  txn : Option (Option String)
  rci : Option (Option String)
  events : Option (List (String × Json.Value))

namespace PartialClaims

def empty : PartialClaims := ⟨none, none, none, none, none, none, none⟩

/-- The claims in the order in which an array gives them. Only the time has to be there. -/
def fields : List (RecordField PartialClaims) := [
  .ofShape "iss" .string (·.iss) (fun c v => { c with iss := some v }) true,
  .ofShape "jti" .string (·.jti) (fun c v => { c with jti := some v }) true,
  .ofShape "iat" .signed (·.iat) (fun c v => { c with iat := some v }) false,
  .ofShape "aud" .string (·.aud) (fun c v => { c with aud := some v }) true,
  .ofShape "txn" (.optional .string) (·.txn) (fun c v => { c with txn := some v }) true,
  .ofShape "rci" (.optional .string) (·.rci) (fun c v => { c with rci := some v }) true,
  .ofShape "events" .object (·.events) (fun c v => { c with events := some v }) true]

/-- The claims, the absent ones empty. -/
def finish (c : PartialClaims) : Except Fault Claims :=
  match c.iat with
  | none => .error (Json.missingField "iat")
  | some iat => .ok {
      iss := c.iss.getD ""
      jti := c.jti.getD ""
      iat := iat
      aud := c.aud.getD ""
      txn := c.txn.getD none
      rci := c.rci.getD none
      events := eventsOfMembers (c.events.getD []) }

end PartialClaims

def readClaims (depth : Nat) : Reader Claims := fun cs =>
  match Json.readRecord "SetClaims" PartialClaims.fields .empty depth cs with
  | .error e => .error e
  | .ok (c, rest) => c.finish.map (·, rest)

/-- Claims from JSON text. -/
def Claims.ofText (s : String) : Except Fault Claims :=
  Json.readWhole (readClaims Json.maxDepth) s

/-! ## Subjects -/

/-- The formats as a message lists them. -/
def formatList : String :=
  String.intercalate ", " (SubjectFormat.all.map fun f => "`" ++ f.name ++ "`")

/-- The name of a format. -/
def readFormat : Reader SubjectFormat := fun cs =>
  match cs.dropWhile Json.isSpace with
  | '"' :: rest =>
    match Json.readText rest with
    | .error e => .error e
    | .ok (name, rest) =>
      match SubjectFormat.ofName? name with
      | some f => .ok (f, rest)
      | none =>
        .error (.mismatch ("unknown variant `" ++ name ++ "`, expected one of " ++ formatList))
  | cs => Json.readMismatch "variant identifier" cs

def countOf (n : Nat) : String := if n = 1 then "1 element" else toString n ++ " elements"

/-- The texts of a list of properties, from an array. -/
def textsOfItems (f : SubjectFormat) (total : Nat) :
    Nat → List String → List Json.Value → Except Fault (List String)
  | _, [], [] => .ok []
  | index, [], extra =>
    .error (Json.wrongLength (index + extra.length) (countOf total ++ " in sequence"))
  | index, _ :: _, [] =>
    .error (Json.wrongLength index
      ("struct variant Subject::" ++ f.title ++ " with " ++ countOf total))
  | index, _ :: names, v :: rest =>
    match v.string? with
    | .error e => .error e
    | .ok s => (textsOfItems f total (index + 1) names rest).map (s :: ·)

/-- The first wrong property among members: one that comes twice or is no text. -/
def checkProperties (names : List String) : List String → List (String × Json.Value) →
    Except Fault (List (String × String))
  | _, [] => .ok []
  | seen, (key, v) :: rest =>
    if names.contains key then
      if seen.contains key then .error (Json.duplicateField key)
      else match v.string? with
        | .error e => .error e
        | .ok s => (checkProperties names (key :: seen) rest).map ((key, s) :: ·)
    else checkProperties names seen rest

/-- The texts of the named properties, in the order of the names. -/
def textsOfProperties (found : List (String × String)) : List String → Except Fault (List String)
  | [] => .ok []
  | name :: names =>
    match found.lookup name with
    | none => .error (Json.missingField name)
    | some s => (textsOfProperties found names).map (s :: ·)

/-- A subject from an array whose first item, the format, is gone. -/
def Subject.ofItems (f : SubjectFormat) (items : List Json.Value) : Except Fault Subject :=
  (textsOfItems f f.properties.length 0 f.properties items).map (Subject.ofValues f)

/-- A subject from the members of an object, the format apart. Other members are passed over. -/
def Subject.ofMembers (f : SubjectFormat) (members : List (String × Json.Value)) :
    Except Fault Subject :=
  match checkProperties f.properties [] members with
  | .error e => .error e
  | .ok found => (textsOfProperties found f.properties).map (Subject.ofValues f)

/-- Reads one member of a subject: the format, which may come once, or a property. -/
def readSubjectMember (depth : Nat) (key : String)
    (state : Option SubjectFormat × List (String × Json.Value)) :
    Reader (Option SubjectFormat × List (String × Json.Value)) := fun cs =>
  if key = "format" then
    if state.1.isSome then .error (Json.duplicateField "format")
    else match Json.readColon cs with
      | .error e => .error e
      | .ok rest => (readFormat rest).map fun r => ((some r.1, state.2), r.2)
  else match Json.readColon cs with
    | .error e => .error e
    | .ok rest => (Json.readValue depth rest).map fun r => ((state.1, state.2 ++ [(key, r.1)]), r.2)

def readSubject (depth : Nat) : Reader Subject := fun cs =>
  match cs.dropWhile Json.isSpace with
  | '{' :: rest =>
    match depth with
    | 0 => .error (.malformed .tooDeep)
    | depth + 1 =>
      match Json.walkMembers (readSubjectMember depth) (none, []) rest with
      | .error e => .error e
      | .ok ((none, _), _) => .error (Json.missingField "format")
      | .ok ((some f, members), rest) => (Subject.ofMembers f members).map (·, rest)
  | '[' :: rest =>
    match depth with
    | 0 => .error (.malformed .tooDeep)
    | depth + 1 =>
      match Json.nextItem true rest with
      | .error e => .error e
      | .ok none => .error (Json.missingField "format")
      | .ok (some rest) =>
        match readFormat rest with
        | .error e => .error e
        | .ok (f, rest) =>
          match Json.readItemsWith (2 * rest.length + 2) depth false rest with
          | .error e => .error e
          | .ok (items, rest) => (Subject.ofItems f items).map (·, rest)
  | cs => Json.readMismatch "internally tagged enum Subject" cs

/-- A subject from JSON text. -/
def Subject.ofText (s : String) : Except Fault Subject :=
  Json.readWhole (readSubject Json.maxDepth) s

/-! ## Claims with a subject -/

/-- Reads one member of a payload with a subject. All but the subject are kept for later. -/
def readCaepMember (depth : Nat) (key : String)
    (state : Option Subject × List (String × Json.Value)) :
    Reader (Option Subject × List (String × Json.Value)) := fun cs =>
  if key = "sub_id" then
    if state.1.isSome then .error (Json.duplicateField "sub_id")
    else match Json.readColon cs with
      | .error e => .error e
      | .ok rest => (readSubject depth rest).map fun r => ((some r.1, state.2), r.2)
  else match Json.readColon cs with
    | .error e => .error e
    | .ok rest => (Json.readValue depth rest).map fun r => ((state.1, state.2 ++ [(key, r.1)]), r.2)

/-- Reads claims with a subject beside them. The claims are looked at once the object has ended and
its subject is known to be there. -/
def readCaep (depth : Nat) : Reader (Claims × Subject) := fun cs =>
  match cs.dropWhile Json.isSpace with
  | '{' :: rest =>
    match depth with
    | 0 => .error (.malformed .tooDeep)
    | depth + 1 =>
      match Json.walkMembers (readCaepMember depth) (none, []) rest with
      | .error e => .error e
      | .ok ((none, _), _) => .error (Json.missingField "sub_id")
      | .ok ((some s, members), rest) =>
        match Json.takeFields PartialClaims.fields .empty members with
        | .error e => .error e
        | .ok c => c.finish.map fun claims => ((claims, s), rest)
  | cs => Json.readMismatch "struct CaepPayload" cs

/-- Claims with a subject from JSON text. -/
def caepOfText (s : String) : Except Fault (Claims × Subject) :=
  Json.readWhole (readCaep Json.maxDepth) s

/-! ## Payload files -/

/-- What a payload file says: the claims as far as they are given, and a subject. -/
structure PayloadFile where
  iss : String
  aud : String
  jti : Option String
  iat : Option Int64
  txn : Option String
  rci : Option String
  events : Keyed Json.Value
  subject : Option Subject

/-- A payload file as far as it has been read. -/
structure PartialFile where
  iss : Option String
  aud : Option String
  jti : Option (Option String)
  iat : Option (Option Int64)
  txn : Option (Option String)
  rci : Option (Option String)
  events : Option (List (String × Json.Value))
  subject : Option (Option Subject)

namespace PartialFile

def empty : PartialFile := ⟨none, none, none, none, none, none, none, none⟩

/-- A subject is only ever read from text. -/
def subjectShape : Shape Subject :=
  ⟨readSubject, fun v => .error (Json.wrongType v.describe "internally tagged enum Subject")⟩

/-- The fields in the order in which an array gives them. -/
def fields : List (RecordField PartialFile) := [
  .ofShape "iss" .string (·.iss) (fun c v => { c with iss := some v }) false,
  .ofShape "aud" .string (·.aud) (fun c v => { c with aud := some v }) false,
  .ofShape "jti" (.optional .string) (·.jti) (fun c v => { c with jti := some v }) false,
  .ofShape "iat" (.optional .signed) (·.iat) (fun c v => { c with iat := some v }) false,
  .ofShape "txn" (.optional .string) (·.txn) (fun c v => { c with txn := some v }) false,
  .ofShape "rci" (.optional .string) (·.rci) (fun c v => { c with rci := some v }) false,
  .ofShape "events" .object (·.events) (fun c v => { c with events := some v }) true,
  .ofShape "sub_id" (.optional subjectShape) (·.subject) (fun c v => { c with subject := some v })
    false]

/-- The file, which has to name issuer and audience. -/
def finish (c : PartialFile) : Except Fault PayloadFile :=
  match c.iss, c.aud with
  | none, _ => .error (Json.missingField "iss")
  | some _, none => .error (Json.missingField "aud")
  | some iss, some aud => .ok {
      iss := iss
      aud := aud
      jti := c.jti.getD none
      iat := c.iat.getD none
      txn := c.txn.getD none
      rci := c.rci.getD none
      events := eventsOfMembers (c.events.getD [])
      subject := c.subject.getD none }

end PartialFile

namespace PayloadFile

def read (depth : Nat) : Reader PayloadFile := fun cs =>
  match Json.readRecord "PayloadFile" PartialFile.fields .empty depth cs with
  | .error e => .error e
  | .ok (c, rest) => c.finish.map (·, rest)

/-- A payload file from JSON text. -/
def ofText (s : String) : Except Fault PayloadFile := Json.readWhole (read Json.maxDepth) s

/-- The settings that draft the payload of a file. -/
def settings (f : PayloadFile) : List Setting :=
  [.iss f.iss, .aud f.aud]
    ++ (f.jti.map Setting.jti).toList ++ (f.iat.map Setting.iat).toList
    ++ (f.txn.map Setting.txn).toList ++ (f.rci.map Setting.rci).toList
    ++ f.events.entries.map fun e => Setting.event e.1 e.2

/-- The payload of a file. -/
def payload (f : PayloadFile) (fresh : String) (now : Int64) : Except PayloadError Payload :=
  (Draft.ofSettings f.settings).payload f.subject fresh now

end PayloadFile

end HubPublisher.Event
