import HubPublisher.Event.Subject

/-!
Payloads of security events: the claims every event token has, and for some a subject.

A payload is drafted by setting claims in any order and then closed. Closing checks the draft once:
issuer and audience have to be there, and no event type may be named twice. What is left open is
filled in from an id and a time that the caller brings along.
-/
namespace HubPublisher.Event

/-- The claims of a security event token. -/
structure Claims where
  iss : String
  jti : String
  /-- When the token was issued, in milliseconds. -/
  iat : Int64
  aud : String
  txn : Option String
  rci : Option String
  /-- The claims of each event, under the URI of its type. -/
  events : Keyed Json.Value

/-- What is sent to the hub: claims alone, or claims and the subject they are about. -/
inductive Payload where
  | base (claims : Claims)
  | caep (claims : Claims) (subject : Subject)

namespace Payload

def claims : Payload → Claims
  | base c => c
  | caep c _ => c

def subject : Payload → Option Subject
  | base _ => none
  | caep _ s => some s

end Payload

/-! ## Text -/

/-- A whole number of sixty-four bits with a sign, as a JSON number. -/
def signedInteger (n : Int64) : Json.Integer where
  val := n.toInt
  lower := Int64.le_toInt n
  upper := Int.lt_trans (Int64.toInt_lt n) (by decide)

/-- A text claim, left out when it is empty. -/
def textMember (key value : String) : List (String × Json.Value) :=
  if value = "" then [] else [(key, .text value)]

/-- An optional claim, left out when it is absent. -/
def optionalMember (key : String) : Option String → List (String × Json.Value)
  | none => []
  | some value => [(key, .text value)]

/-- The events, left out when there are none. -/
def eventsMember (events : Keyed Json.Value) : List (String × Json.Value) :=
  if events.isEmpty then [] else [("events", .object events.entries)]

/-- The members of the claims in the order in which they are written. -/
def Claims.members (c : Claims) : List (String × Json.Value) :=
  textMember "iss" c.iss ++ textMember "jti" c.jti ++ [("iat", .integer (signedInteger c.iat))]
    ++ textMember "aud" c.aud ++ optionalMember "txn" c.txn ++ optionalMember "rci" c.rci
    ++ eventsMember c.events

def Claims.json (c : Claims) : Json.Value := .object c.members

/-- Claims as a JSON object; a subject follows them under `sub_id`. -/
def Payload.json : Payload → Json.Value
  | base c => c.json
  | caep c s => .object (c.members ++ [("sub_id", s.json)])

/-- The text that is sent to the hub. -/
def Payload.body (p : Payload) : String := p.json.write

/-! ## Drafts -/

inductive PayloadError where
  | missingClaim (claim : String)
  | duplicateEvent (uri : String)
  deriving DecidableEq, Repr

def PayloadError.message : PayloadError → String
  | missingClaim claim => "missing required claim: " ++ claim
  | duplicateEvent uri => "duplicate event type: " ++ uri

mutual
/-- The value without the null members of its objects. Objects inside an array stay as they are. -/
def withoutNulls : Json.Value → Json.Value
  | .object members => .object (withoutNullMembers members)
  | v => v
def withoutNullMembers : List (String × Json.Value) → List (String × Json.Value)
  | [] => []
  | (key, v) :: rest =>
    if v.isNull then withoutNullMembers rest
    else (key, withoutNulls v) :: withoutNullMembers rest
end

/-- One claim being set. -/
inductive Setting where
  | iss (value : String)
  | aud (value : String)
  | jti (value : String)
  | txn (value : String)
  | rci (value : String)
  | iat (value : Int64)
  | event (uri : String) (claims : Json.Value)

/-- A payload in the making. -/
structure Draft where
  iss : Option String
  aud : Option String
  jti : Option String
  iat : Option Int64
  txn : Option String
  rci : Option String
  /-- The events in the order in which they were added. -/
  events : List (String × Json.Value)

namespace Draft

def empty : Draft := ⟨none, none, none, none, none, none, []⟩

/-- Sets a claim; the value set last counts. An event is added, without its null members. -/
def set (d : Draft) : Setting → Draft
  | .iss v => { d with iss := some v }
  | .aud v => { d with aud := some v }
  | .jti v => { d with jti := some v }
  | .txn v => { d with txn := some v }
  | .rci v => { d with rci := some v }
  | .iat v => { d with iat := some v }
  | .event uri claims => { d with events := d.events ++ [(uri, withoutNulls claims)] }

def ofSettings (settings : List Setting) : Draft := settings.foldl set empty

/-- A text that is set and not empty. -/
def given : Option String → Option String
  | some v => if v = "" then none else some v
  | none => none

def required (claim : String) (value : Option String) : Except PayloadError String :=
  match given value with
  | some v => .ok v
  | none => .error (.missingClaim claim)

/-- Files the events from left to right and stops at the first whose type is there already. -/
def fileEvents (filed : Keyed Json.Value) :
    List (String × Json.Value) → Except PayloadError (Keyed Json.Value)
  | [] => .ok filed
  | (uri, claims) :: rest =>
    if filed.contains uri then .error (.duplicateEvent uri)
    else fileEvents (filed.insert uri claims) rest

/-- The claims of a finished draft. An id and a time that were not set are the fresh ones. -/
def close (d : Draft) (fresh : String) (now : Int64) : Except PayloadError Claims :=
  match required "iss" d.iss with
  | .error e => .error e
  | .ok iss =>
    match required "aud" d.aud with
    | .error e => .error e
    | .ok aud =>
      match fileEvents Keyed.empty d.events with
      | .error e => .error e
      | .ok events =>
        .ok {
          iss := iss
          jti := (given d.jti).getD fresh
          iat := d.iat.getD now
          aud := aud
          txn := given d.txn
          rci := given d.rci
          events := events }

/-- The payload of a finished draft, with a subject if there is one. -/
def payload (d : Draft) (subject : Option Subject) (fresh : String) (now : Int64) :
    Except PayloadError Payload :=
  (d.close fresh now).map fun claims =>
    match subject with
    | some s => .caep claims s
    | none => .base claims

end Draft

end HubPublisher.Event
