import HubPublisher.Proofs.Event.Drafts
import HubPublisher.Proofs.Event.RoundTrip

/-!
What a payload file says, and the payload it is drafted to.

The text gives the fields that were found in it (`PayloadFile.found`), and they are finished to the
file. Its settings name each claim once and each event type once, so nothing but an empty issuer or
audience stands between a file and its payload (`PayloadFile.payload_eq_ok`).
-/
namespace HubPublisher.Event

open Json (Fault LocalOn Value Walks)

namespace PartialFile

theorem finish_eq_ok {c : PartialFile} {f : PayloadFile} :
    c.finish = .ok f ↔ c.iss = some f.iss ∧ c.aud = some f.aud ∧ c.jti.getD none = f.jti ∧
      c.iat.getD none = f.iat ∧ c.txn.getD none = f.txn ∧ c.rci.getD none = f.rci ∧
      eventsOfMembers (c.events.getD []) = f.events ∧ c.subject.getD none = f.subject := by
  obtain ⟨iss, aud, jti, iat, txn, rci, events, subject⟩ := f
  unfold finish
  split
  · simp [*]
  · simp [*]
  · simp [*]

end PartialFile

namespace PayloadFile

/-! ## From the text -/

/-- The fields that are found in the text of a payload file. -/
def found (s : String) : Except Fault PartialFile :=
  Json.readWhole (Json.readRecord "PayloadFile" PartialFile.fields .empty Json.maxDepth) s

theorem ofText_eq_ok {s : String} {f : PayloadFile} :
    ofText s = .ok f ↔ ∃ c, found s = .ok c ∧ c.finish = .ok f := by
  unfold ofText found Json.readWhole read
  cases Json.readRecord "PayloadFile" PartialFile.fields .empty Json.maxDepth s.toList with
  | error e => simp
  | ok r =>
    obtain ⟨c, rest⟩ := r
    cases finished : c.finish with
    | error e =>
      by_cases ended : (rest.dropWhile Json.isSpace).isEmpty = true
      · simp [Except.map, finished, ended]
      · simp [Except.map, finished, ended]
    | ok g =>
      by_cases ended : (rest.dropWhile Json.isSpace).isEmpty = true
      · simp [Except.map, finished, ended]
      · simp [Except.map, finished, ended]

/-- The fields of a written object are those that its members walk to. -/
theorem found_write {members : List (String × Value)} {c : PartialFile}
    (h : Walks (Json.readField PartialFile.fields 126) .empty members c) :
    found (Value.object members).write = .ok c :=
  Json.readWhole_write (Json.readRecord_chars h [])

theorem found_write_iff {members : List (String × Value)} {c : PartialFile}
    (h : LocalOn (Json.readField PartialFile.fields 126) .empty members) :
    found (Value.object members).write = .ok c ↔
      Walks (Json.readField PartialFile.fields 126) .empty members c := by
  refine ⟨fun read => ?_, found_write⟩
  have text : (Value.object members).write.toList = '{' :: (Value.charsMembers members ++ ['}']) :=
    String.toList_ofList
  rw [found, Json.readWhole, text] at read
  split at read
  · cases read
  · rename_i r rest walked
    obtain ⟨walks, ended⟩ := h.walkMembers_chars_iff.1 walked
    rw [ended] at read
    cases read
    exact walks

/-! ## To the payload -/

variable {f : PayloadFile} {fresh : String} {now : Int64}

/-- The draft that a file makes. -/
def draft (f : PayloadFile) : Draft where
  iss := some f.iss
  aud := some f.aud
  jti := f.jti
  iat := f.iat
  txn := f.txn
  rci := f.rci
  events := (f.events.mapValues withoutNulls).entries

theorem ofSettings_settings (f : PayloadFile) : Draft.ofSettings f.settings = f.draft := by
  rw [Draft.ofSettings, settings, List.foldl_append, Draft.foldl_event]
  cases jti : f.jti <;> cases iat : f.iat <;> cases txn : f.txn <;> cases rci : f.rci <;>
    simp [draft, Keyed.mapValues, Draft.set, Draft.empty, jti, iat, txn, rci]

/-- The claims of the payload of a file. -/
def claims (f : PayloadFile) (fresh : String) (now : Int64) : Claims where
  iss := f.iss
  jti := (Draft.given f.jti).getD fresh
  iat := f.iat.getD now
  aud := f.aud
  txn := Draft.given f.txn
  rci := Draft.given f.rci
  events := f.events.mapValues withoutNulls

/-- Only an empty issuer or audience keeps a file from being a payload: it has each event type
once. -/
theorem close_draft (f : PayloadFile) (fresh : String) (now : Int64) :
    f.draft.close fresh now =
      if f.iss = "" then .error (.missingClaim "iss")
      else if f.aud = "" then .error (.missingClaim "aud")
      else .ok (f.claims fresh now) := by
  have filed : Draft.fileEvents Keyed.empty f.draft.events = .ok (f.events.mapValues withoutNulls) :=
    Draft.fileEvents_of_entries _ Keyed.empty rfl
  by_cases iss : f.iss = ""
  · simp [Draft.close, draft, iss, Draft.required, Draft.given]
  · by_cases aud : f.aud = ""
    · simp [Draft.close, draft, iss, aud, Draft.required, Draft.given]
    · rw [if_neg iss, if_neg aud, Draft.close, filed]
      simp only [draft, Draft.required_of_ne iss, Draft.required_of_ne aud, claims]

theorem payload_eq_ok {p : Payload} :
    f.payload fresh now = .ok p ↔
      f.iss ≠ "" ∧ f.aud ≠ "" ∧ p.claims = f.claims fresh now ∧ p.subject = f.subject := by
  rw [payload, Draft.payload_eq_ok, ofSettings_settings, close_draft]
  by_cases iss : f.iss = ""
  · simp [iss]
  · by_cases aud : f.aud = ""
    · simp [iss, aud]
    · simp [iss, aud, eq_comm (a := p.claims)]

/-- A file is closed to a payload when it names issuer and audience. -/
theorem payload_isOk {fresh : String} {now : Int64} :
    (∃ p, f.payload fresh now = .ok p) ↔ f.iss ≠ "" ∧ f.aud ≠ "" := by
  constructor
  · intro ⟨p, closed⟩
    obtain ⟨iss, aud, -⟩ := payload_eq_ok.1 closed
    exact ⟨iss, aud⟩
  · intro ⟨iss, aud⟩
    cases about : f.subject with
    | none => exact ⟨.base (f.claims fresh now), payload_eq_ok.2 ⟨iss, aud, rfl, about.symm⟩⟩
    | some s => exact ⟨.caep (f.claims fresh now) s, payload_eq_ok.2 ⟨iss, aud, rfl, about.symm⟩⟩

theorem payload_ne_duplicateEvent (uri : String) :
    f.payload fresh now ≠ .error (.duplicateEvent uri) := by
  rw [payload, Draft.payload, ofSettings_settings, close_draft]
  split
  · simp [Except.map]
  · split
    · simp [Except.map]
    · simp [Except.map]

end PayloadFile

end HubPublisher.Event
