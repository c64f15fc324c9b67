import HubPublisher.Proofs.Event.File

/-!
Which of the events that a payload file lists are in its payload.

The events are filed in a collection before they are added to a draft. Of several events of one
type the last is what the collection gives, and the draft gets each type once, so a file is never
refused for a type that comes again. Settings that add the same events are refused at the first
type that was there before (`Draft.duplicateEvent_iff`).
-/
namespace HubPublisher.Event

open Json (Value Walks)
open Json.Value (FloatlessMembers depthMembers)

/-! ## The events that a text lists -/

/-- The members of the events object in the text of a payload file, as they stand there; none when
there is no such object. -/
def PayloadFile.Lists (s : String) (events : List (String × Value)) : Prop :=
  ∃ c, found s = .ok c ∧ c.events.getD [] = events

/-- A file with an issuer, an audience and events, as a JSON object. -/
def fileObject (iss aud : String) (events : List (String × Value)) : Value :=
  .object [("iss", .text iss), ("aud", .text aud), ("events", .object events)]

/-- What has been read when the members of that object have been read. -/
def fileObjectFound (iss aud : String) (events : List (String × Value)) : PartialFile :=
  { PartialFile.empty with iss := some iss, aud := some aud, events := some events }

theorem found_fileObject (iss aud : String) {events : List (String × Value)}
    (floatless : FloatlessMembers events) (shallow : depthMembers events ≤ 125) :
    PayloadFile.found (fileObject iss aud events).write = .ok (fileObjectFound iss aud events) := by
  apply PayloadFile.found_write
  apply Walks.of_takeFields PartialFile.faithful
  · exact ⟨trivial, trivial, floatless, trivial⟩
  · show max 0 (max 0 (max (depthMembers events + 1) 0)) ≤ 126
    omega
  · rfl

namespace PayloadFile

variable {f : PayloadFile} {events : List (String × Value)}

/-- The events of a file are the listed ones, filed from left to right. -/
theorem lists_of_ofText {s : String} (read : ofText s = .ok f) :
    ∃ events, Lists s events ∧ f.events = eventsOfMembers events := by
  obtain ⟨c, found, finished⟩ := ofText_eq_ok.1 read
  obtain ⟨-, -, -, -, -, -, filed, -⟩ := PartialFile.finish_eq_ok.1 finished
  exact ⟨c.events.getD [], ⟨c, found, rfl⟩, filed.symm⟩

theorem get?_eventsOfMembers (events : List (String × Value)) (uri : String) :
    (eventsOfMembers events).get? uri = (events.reverse.lookup uri).map Value.sorted := by
  rw [eventsOfMembers, Keyed.get?_ofList, ← List.map_reverse]
  exact Keyed.lookup_map_values Value.sorted events.reverse uri

/-- An event of the payload is the last of its type, without its null members. -/
theorem get?_events_claims (filed : f.events = eventsOfMembers events) (fresh : String)
    (now : Int64) (uri : String) :
    (f.claims fresh now).events.get? uri
      = (events.reverse.lookup uri).map fun v => withoutNulls v.sorted := by
  show (f.events.mapValues withoutNulls).get? uri = _
  rw [Keyed.get?_mapValues, filed, get?_eventsOfMembers, Option.map_map]
  rfl

end PayloadFile

/-! ## The same events added by settings -/

/-- A draft is refused for an event exactly when issuer and audience are there and a type comes
again. -/
theorem Draft.duplicateEvent_iff {d : Draft} {subject : Option Subject} {fresh uri : String}
    {now : Int64} :
    d.payload subject fresh now = .error (.duplicateEvent uri) ↔
      (given d.iss).isSome ∧ (given d.aud).isSome ∧ FirstRepeat (d.events.map (·.1)) uri := by
  rw [← fileEvents_eq_error, payload, close]
  unfold required
  cases given d.iss with
  | none => simp [Except.map]
  | some iss =>
    cases given d.aud with
    | none => simp [Except.map]
    | some aud =>
      cases fileEvents Keyed.empty d.events with
      | error e => simp [Except.map]
      | ok events => simp [Except.map]

/-! ## Files and settings -/

/-- Whatever events a text lists, its file is refused only when issuer or audience is empty, and its
payload has the last listed event of each type, so that one is there unless a later one has its
type. Settings that add the same events are refused instead for the first type that was added
before. Any list of events can be written in a file. -/
theorem file_keeps_last_events (text : String) :
    (∀ f, PayloadFile.ofText text = .ok f → ∃ events, PayloadFile.Lists text events ∧
      ∀ fresh now,
        ((∃ p, f.payload fresh now = .ok p) ↔ f.iss ≠ "" ∧ f.aud ≠ "") ∧
        (∀ uri, f.payload fresh now ≠ .error (.duplicateEvent uri)) ∧
        (∀ p, f.payload fresh now = .ok p →
          (∀ uri, p.claims.events.get? uri
            = (events.reverse.lookup uri).map fun v => withoutNulls v.sorted) ∧
          ∀ before e after, events = before ++ e :: after → e.1 ∉ after.map (·.1) →
            p.claims.events.get? e.1 = some (withoutNulls e.2.sorted)) ∧
        ∀ settings subject uri,
          settings.filterMap Setting.added = events.map (fun e => (e.1, withoutNulls e.2)) →
          ((Draft.ofSettings settings).payload subject fresh now = .error (.duplicateEvent uri) ↔
            (Draft.given (Draft.ofSettings settings).iss).isSome ∧
            (Draft.given (Draft.ofSettings settings).aud).isSome ∧
            Draft.FirstRepeat (events.map (·.1)) uri)) ∧
    ∀ iss aud events, FloatlessMembers events → depthMembers events ≤ 125 →
      text = (fileObject iss aud events).write →
      ∃ f, PayloadFile.ofText text = .ok f ∧ PayloadFile.Lists text events ∧
        f.iss = iss ∧ f.aud = aud := by
  constructor
  · intro f read
    obtain ⟨events, lists, filed⟩ := PayloadFile.lists_of_ofText read
    refine ⟨events, lists, fun fresh now => ⟨PayloadFile.payload_isOk,
      PayloadFile.payload_ne_duplicateEvent, ?_, ?_⟩⟩
    · intro p closed
      obtain ⟨-, -, claims, -⟩ := PayloadFile.payload_eq_ok.1 closed
      have kept := PayloadFile.get?_events_claims filed fresh now
      rw [claims]
      refine ⟨kept, fun before e after split last => ?_⟩
      rw [kept, split, Keyed.lookup_reverse_of_last last]
      rfl
    · intro settings subject uri adds
      rw [Draft.duplicateEvent_iff, Draft.events_ofSettings, adds, List.map_map]
      rfl
  · intro iss aud events floatless shallow written
    have found := found_fileObject iss aud floatless shallow
    rw [written]
    exact ⟨_, PayloadFile.ofText_eq_ok.2 ⟨_, found, rfl⟩, ⟨_, found, rfl⟩, rfl, rfl⟩

/-- Two events of one type. -/
def repeatedEvents : List (String × Value) := [
  ("urn:e", .object [("a", .integer (signedInteger 1))]),
  ("urn:e", .object [("b", .integer (signedInteger 2))])]

theorem repeatedEvents_floatless : FloatlessMembers repeatedEvents :=
  ⟨⟨trivial, trivial⟩, ⟨trivial, trivial⟩, trivial⟩

/-- The text of a file that lists them. -/
def repeatingText : String := (fileObject "https://idp.example" "https://rp.example"
  repeatedEvents).write

theorem file_keeps_last_events_repeating :
    FloatlessMembers repeatedEvents ∧ depthMembers repeatedEvents ≤ 125 ∧
    ∃ f p, PayloadFile.ofText repeatingText = .ok f ∧ f.payload "t-1" 1 = .ok p ∧
      ∃ events, PayloadFile.Lists repeatingText events ∧
        (∀ uri, p.claims.events.get? uri
          = (events.reverse.lookup uri).map fun v => withoutNulls v.sorted) ∧
        ∀ before e after, events = before ++ e :: after → e.1 ∉ after.map (·.1) →
          p.claims.events.get? e.1 = some (withoutNulls e.2.sorted) := by
  have shallow : depthMembers repeatedEvents ≤ 125 := by decide
  obtain ⟨reads, writes⟩ := file_keeps_last_events repeatingText
  obtain ⟨f, read, -, iss, aud⟩ := writes "https://idp.example" "https://rp.example" repeatedEvents
    repeatedEvents_floatless shallow rfl
  obtain ⟨events, lists, drafted⟩ := reads f read
  obtain ⟨accepted, -, kept, -⟩ := drafted "t-1" 1
  obtain ⟨p, closed⟩ := accepted.2 (by rw [iss, aud]; decide)
  exact ⟨repeatedEvents_floatless, shallow, f, p, read, closed, events, lists, kept p closed⟩

/-- The first of two events of one type is lost without a word, where the same two events added to
a draft are refused. -/
theorem repeated_event_lost :
    PayloadFile.Lists repeatingText repeatedEvents ∧
    (∃ f p, PayloadFile.ofText repeatingText = .ok f ∧ f.payload "t-1" 1 = .ok p ∧
      p.claims.events.entries = [("urn:e", .object [("b", .integer (signedInteger 2))])]) ∧
    (Draft.ofSettings ([.iss "https://idp.example", .aud "https://rp.example"]
      ++ repeatedEvents.map fun e => .event e.1 e.2)).payload none "t-1" 1
        = .error (.duplicateEvent "urn:e") := by
  have found : PayloadFile.found repeatingText
      = .ok (fileObjectFound "https://idp.example" "https://rp.example" repeatedEvents) :=
    found_fileObject _ _ repeatedEvents_floatless (by decide)
  exact ⟨⟨_, found, rfl⟩, ⟨_, _, PayloadFile.ofText_eq_ok.2 ⟨_, found, rfl⟩, rfl, rfl⟩, rfl⟩

end HubPublisher.Event
