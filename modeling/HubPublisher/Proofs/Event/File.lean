import HubPublisher.Proofs.Event.Reading
import HubPublisher.Text.Uuid

/-!
The text of a payload is a payload file of the payload itself.

The file has the form that drafts are read from: issuer and audience are required, and what it says
is drafted and closed again. A closed draft has both, and closing it again changes nothing
(`Claims.Drafted.close_draft`), so no id and no time is taken from elsewhere.
-/
namespace HubPublisher.Event

open Json (RecordField Shape Value Walks)
open Json.Value (Floatless FloatlessMembers depthMembers)

/-! ## The file that a text is -/

/-- The payload file that states a payload as it is. -/
def Payload.file (p : Payload) : PayloadFile where
  iss := p.claims.iss
  aud := p.claims.aud
  jti := some p.claims.jti
  iat := some p.claims.iat
  txn := p.claims.txn
  rci := p.claims.rci
  events := p.claims.events
  subject := p.subject

/-- What of a payload file has been read when the members of claims have been read. -/
def Claims.fileFound (c : Claims) : PartialFile where
  iss := some c.iss
  aud := some c.aud
  jti := some (some c.jti)
  iat := some (some c.iat)
  txn := c.txn.map some
  rci := c.rci.map some
  events := if c.events.isEmpty then none else some c.events.entries
  subject := none

theorem textMember_of_ne {key value : String} (h : value ≠ "") :
    textMember key value = [(key, .text value)] := if_neg h

theorem optional_signedInteger (n : Int64) :
    Value.optional? Value.signed? (.integer (signedInteger n)) = .ok (some n) := by
  show (Value.integer (signedInteger n)).signed?.map some = _
  rw [signed?_signedInteger]
  rfl

theorem Claims.Drafted.takeFields_members {c : Claims} (drafted : c.Drafted) :
    Json.takeFields PartialFile.fields .empty c.members = .ok c.fileFound := by
  let fields := PartialFile.fields
  let s₁ : PartialFile := { PartialFile.empty with iss := some c.iss, jti := some (some c.jti) }
  let s₂ : PartialFile := { s₁ with iat := some (some c.iat) }
  let s₃ : PartialFile := { s₂ with aud := some c.aud }
  let s₄ : PartialFile := { s₃ with txn := c.txn.map some }
  let s₅ : PartialFile := { s₄ with rci := c.rci.map some }
  have named : Json.takeFields fields .empty (textMember "iss" c.iss ++ textMember "jti" c.jti)
      = .ok s₁ := by
    rw [textMember_of_ne drafted.iss, textMember_of_ne drafted.jti]
    rfl
  have iat : Json.takeFields fields s₁ [("iat", .integer (signedInteger c.iat))] = .ok s₂ :=
    Json.takeFields_singleton rfl rfl (RecordField.take_ofShape (optional_signedInteger c.iat))
  have aud : Json.takeFields fields s₂ (textMember "aud" c.aud) = .ok s₃ := by
    rw [textMember_of_ne drafted.aud]
    rfl
  have txn : Json.takeFields fields s₃ (optionalMember "txn" c.txn) = .ok s₄ := by
    show _ = Except.ok { s₃ with txn := c.txn.map some }
    cases c.txn <;> rfl
  have rci : Json.takeFields fields s₄ (optionalMember "rci" c.rci) = .ok s₅ := by
    show _ = Except.ok { s₄ with rci := c.rci.map some }
    cases c.rci <;> rfl
  have events : Json.takeFields fields s₅ (eventsMember c.events) = .ok c.fileFound := by
    simp only [eventsMember, Claims.fileFound]
    split <;> rfl
  exact Json.takeFields_append (Json.takeFields_append (Json.takeFields_append
    (Json.takeFields_append (Json.takeFields_append named iat) aud) txn) rci) events

theorem PartialFile.faithful {depth : Nat} : ∀ f ∈ fields, f.Faithful depth := by
  have subject : subjectShape.Faithful depth := by
    intro v s rest _ _ _ taken
    cases taken
  have text : (Shape.optional .string).Faithful depth :=
    Shape.optional_faithful Shape.string_faithful
  intro f member
  simp only [fields, List.mem_cons, List.not_mem_nil, or_false] at member
  rcases member with rfl | rfl | rfl | rfl | rfl | rfl | rfl | rfl
  · exact RecordField.ofShape_faithful Shape.string_faithful
  · exact RecordField.ofShape_faithful Shape.string_faithful
  · exact RecordField.ofShape_faithful text
  · exact RecordField.ofShape_faithful (Shape.optional_faithful Shape.signed_faithful)
  · exact RecordField.ofShape_faithful text
  · exact RecordField.ofShape_faithful text
  · exact RecordField.ofShape_faithful Shape.object_faithful
  · exact RecordField.ofShape_faithful (Shape.optional_faithful subject)

/-- The member that holds a subject is read as the subject of a file. -/
theorem readField_subject (s : Subject) (depth : Nat) (found : PartialFile)
    (fresh : found.subject = none) (rest : List Char) :
    Json.readField PartialFile.fields (depth + 1) "sub_id" found (':' :: (s.json.chars ++ rest))
      = .ok ({ found with subject := some (some s) }, rest) := by
  have read : Json.readOptional (readSubject (depth + 1)) (s.json.chars ++ rest)
      = .ok (some s, rest) :=
    Shape.readOptional_chars s.floatless_json nofun (readSubject_chars s depth rest)
  refine Json.readField_known rfl ?_ ?_
  · show found.subject.isSome = false
    rw [fresh]
    rfl
  · show (Json.readOptional (readSubject (depth + 1)) (s.json.chars ++ rest)).map _ = _
    rw [read]
    rfl

/-- The members of a payload: those of its claims, and its subject. -/
def Payload.members (p : Payload) : List (String × Value) :=
  p.claims.members ++ (p.subject.map fun s => ("sub_id", s.json)).toList

theorem Payload.json_eq (p : Payload) : p.json = .object p.members := by
  cases p with
  | base c =>
    show Value.object c.members = .object (c.members ++ [])
    rw [List.append_nil]
  | caep c s => rfl

/-- The text of a payload walks to what its file says. -/
theorem Payload.walks {p : Payload} (drafted : p.claims.Drafted) (plain : p.claims.Plain)
    (depth : Nat) (shallow : depthMembers p.claims.members ≤ depth + 1) :
    Walks (Json.readField PartialFile.fields (depth + 1)) .empty p.members
      { p.claims.fileFound with subject := p.subject.map some } := by
  have front : Walks (Json.readField PartialFile.fields (depth + 1)) .empty p.claims.members
      p.claims.fileFound :=
    Walks.of_takeFields PartialFile.faithful plain.floatless_members shallow
      drafted.takeFields_members
  refine front.append ?_
  cases p with
  | base c => exact .nil _
  | caep c s => exact .cons (fun rest _ => readField_subject s depth _ rfl rest) (.nil _)

/-- What has been read of a payload's text is finished to its file. -/
theorem Payload.finish_fileFound {p : Payload} (plain : p.claims.Plain) :
    PartialFile.finish { p.claims.fileFound with subject := p.subject.map some } = .ok p.file := by
  rw [PartialFile.finish_eq_ok]
  exact ⟨rfl, rfl, rfl, rfl, getD_map_some _, getD_map_some _,
    eventsOfMembers_getD plain.canonical, getD_map_some _⟩

theorem Payload.ofText_body {p : Payload} (drafted : p.claims.Drafted) (plain : p.claims.Plain)
    (shallow : p.json.depth ≤ Json.maxDepth) : PayloadFile.ofText p.body = .ok p.file := by
  rw [Payload.body]
  rw [Payload.json_eq] at shallow ⊢
  have inner : depthMembers p.members ≤ 126 := Nat.le_of_succ_le_succ shallow
  rw [Payload.members, Json.Value.depthMembers_append] at inner
  have walks := Payload.walks drafted plain 125 (by omega)
  exact PayloadFile.ofText_eq_ok.2
    ⟨_, PayloadFile.found_write walks, Payload.finish_fileFound plain⟩

/-! ## The payload of that file -/

/-- The settings of the file draft the claims as they are. -/
theorem Payload.ofSettings_file {p : Payload} (drafted : p.claims.Drafted) :
    Draft.ofSettings p.file.settings = p.claims.draft := by
  have kept : p.claims.events.entries.map (fun e => (e.1, withoutNulls e.2))
      = p.claims.events.entries := by
    rw [List.map_congr_left (g := id), List.map_id]
    intro e there
    rw [drafted.events e there, id]
  rw [PayloadFile.ofSettings_settings]
  simp only [PayloadFile.draft, Keyed.mapValues, Payload.file, Claims.draft, kept]

theorem Payload.payload_file {p : Payload} (drafted : p.claims.Drafted) (fresh : String)
    (now : Int64) : p.file.payload fresh now = .ok p := by
  rw [PayloadFile.payload, Payload.ofSettings_file drafted, Draft.payload,
    drafted.close_draft fresh now]
  cases p <;> rfl

/-! ## Built payloads -/

theorem ofOctets_ne_empty (octets : List UInt8) : Text.Uuid.ofOctets octets ≠ "" := by
  intro empty
  have groups : (Text.Uuid.ofOctets octets).toList = [] := congrArg String.toList empty
  rw [Text.Uuid.ofOctets, String.toList_intercalate] at groups
  simp at groups

theorem Payload.floatless_json {p : Payload} (plain : p.claims.Plain) : p.json.Floatless := by
  rw [Payload.json_eq, Floatless]
  refine Json.Value.floatlessMembers_append.2 ⟨plain.floatless_members, ?_⟩
  cases p with
  | base c => exact trivial
  | caep c s => exact ⟨s.floatless_json, trivial⟩

/-- Claims alone are the payloads whose text has no member for a subject. -/
theorem Payload.base_iff {p : Payload} :
    (∃ c, p = .base c) ↔ ∀ m ∈ p.members, m.1 ≠ "sub_id" := by
  cases p with
  | base c =>
    refine ⟨fun _ m member => ?_, fun _ => ⟨c, rfl⟩⟩
    rcases List.mem_append.1 member with member | none
    · exact Claims.key_ne_subject member
    · cases none
  | caep c s =>
    refine ⟨?_, fun apart => ?_⟩
    · rintro ⟨_, same⟩
      cases same
    have member : ("sub_id", s.json) ∈ (Payload.caep c s).members :=
      List.mem_append_right _ List.mem_cons_self
    exact absurd rfl (apart _ member)

/-- The text of a payload that a draft was closed to is a payload file that describes that payload,
whatever id and time are at hand. It has a member for a subject unless the payload is claims
alone. -/
theorem body_is_own_file (settings : List Setting) (subject : Option Subject) (octets : List UInt8)
    (now : Int64) (p : Payload)
    (canonical : ∀ uri v, Setting.event uri v ∈ settings → v.Canonical)
    (built : (Draft.ofSettings settings).payload subject (Text.Uuid.ofOctets octets) now = .ok p)
    (floatless : ∀ e ∈ p.claims.events.entries, e.2.Floatless)
    (shallow : p.json.depth ≤ Json.maxDepth) :
    (∃ f, PayloadFile.ofText p.body = .ok f ∧
      ∀ fresh now', f.payload fresh now' = .ok p) ∧
    ∃ members, Json.readWhole (Json.readValue Json.maxDepth) p.body = .ok (.object members) ∧
      ((∃ c, p = .base c) ↔ ∀ m ∈ members, m.1 ≠ "sub_id") := by
  obtain ⟨closed, -⟩ := Draft.payload_eq_ok.1 built
  have drafted : p.claims.Drafted := Draft.drafted_of_close (ofOctets_ne_empty octets) closed
  have plain : p.claims.Plain := by
    refine ⟨fun e there => ?_, floatless⟩
    obtain ⟨v, added, value⟩ := Draft.mem_events_close closed there
    rw [value]
    exact canonical_withoutNulls v (canonical e.1 v added)
  have file : PayloadFile.ofText p.body = .ok p.file := Payload.ofText_body drafted plain shallow
  refine ⟨⟨p.file, file, fun fresh now' => Payload.payload_file drafted fresh now'⟩, p.members, ?_,
    Payload.base_iff⟩
  rw [← Payload.json_eq]
  exact Json.readWhole_write
    (Json.readValue_chars (Payload.floatless_json plain) shallow Json.stops_nil)

/-- Settings that name the issuer twice, leave the id and `txn` empty, and add an event with null
members at two depths and inside an array. -/
def untidySettings : List Setting := [
  .iss "", .event "urn:e" (.object [("a", .null), ("b", .object [("c", .null),
    ("d", .array [.object [("k", .null)]])])]),
  .jti "", .iss "https://idp.example", .aud "https://rp.example", .txn ""]

/-- The payload they are closed to, about one subject. -/
def tidiedPayload : Payload :=
  .caep {
      iss := "https://idp.example"
      jti := "00000000-0000-4000-8000-000000000000"
      iat := -1
      aud := "https://rp.example"
      txn := none
      rci := none
      events := Keyed.empty.insert "urn:e"
        (.object [("b", .object [("d", .array [.object [("k", .null)]])])]) }
    (.issuerSubject "" "é")

theorem body_is_own_file_sample :
    (Draft.ofSettings untidySettings).payload (some (.issuerSubject "" "é"))
      (Text.Uuid.ofOctets (List.replicate 16 0)) (-1) = .ok tidiedPayload ∧
    (∃ f, PayloadFile.ofText tidiedPayload.body = .ok f ∧
      ∀ fresh now, f.payload fresh now = .ok tidiedPayload) ∧
    ∃ members, Json.readWhole (Json.readValue Json.maxDepth) tidiedPayload.body
        = .ok (.object members) ∧
      ((∃ c, tidiedPayload = .base c) ↔ ∀ m ∈ members, m.1 ≠ "sub_id") := by
  have built : (Draft.ofSettings untidySettings).payload (some (.issuerSubject "" "é"))
      (Text.Uuid.ofOctets (List.replicate 16 0)) (-1) = .ok tidiedPayload := by
    have id : Text.Uuid.ofOctets (List.replicate 16 0)
        = "00000000-0000-4000-8000-000000000000" := by
      decide
    rw [id]
    rfl
  refine ⟨built, body_is_own_file untidySettings _ _ _ tidiedPayload ?_ built ?_ (by decide)⟩
  · intro uri v added
    simp only [untidySettings, List.mem_cons, List.not_mem_nil, reduceCtorEq, Setting.event.injEq,
      or_false, false_or] at added
    obtain ⟨-, rfl⟩ := added
    have outer : "a" < "b" := by decide
    have inner : "c" < "d" := by decide
    exact ⟨List.pairwise_pair.2 outer, trivial, ⟨List.pairwise_pair.2 inner, trivial,
      ⟨⟨List.pairwise_singleton _ _, trivial, trivial⟩, trivial⟩, trivial⟩, trivial⟩
  · simp [tidiedPayload, Payload.claims, Keyed.insert, Keyed.empty, insertEntry, Value.Floatless,
      Value.FloatlessMembers, Value.FloatlessItems]
end HubPublisher.Event
