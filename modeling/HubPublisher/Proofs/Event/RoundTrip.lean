import HubPublisher.Proofs.Event.Subjects

/-!
Claims, subjects and payloads with a subject are what their own text reads as.

Each is read in two steps. The text walks to the state that the members stand for
(`Walks.of_takeFields`), and that state is finished to the value. A claim that is left out of the
text because it is empty is filled in as the empty one, so no two claims share a text.
-/
namespace HubPublisher.Event

open Json (RecordField Shape Value Walks)
open Json.Value (Floatless FloatlessMembers floatlessMembers_iff depthMembers)

/-! ## The members of claims -/

theorem mem_textMember {key value : String} {m : String × Value} (h : m ∈ textMember key value) :
    m = (key, .text value) := by
  unfold textMember at h
  split at h
  · cases h
  · exact List.mem_singleton.1 h

theorem mem_optionalMember {key : String} {value : Option String} {m : String × Value}
    (h : m ∈ optionalMember key value) : ∃ s, m = (key, .text s) := by
  cases value with
  | none => cases h
  | some s => exact ⟨s, List.mem_singleton.1 h⟩

theorem mem_eventsMember {events : Keyed Value} {m : String × Value} (h : m ∈ eventsMember events) :
    m = ("events", .object events.entries) := by
  unfold eventsMember at h
  split at h
  · cases h
  · exact List.mem_singleton.1 h

/-- A member of claims is a text under a key of its own, the time or the events. -/
theorem Claims.member_cases {c : Claims} {m : String × Value} (h : m ∈ c.members) :
    (m.1 ∈ ["iss", "jti", "aud", "txn", "rci"] ∧ ∃ s, m.2 = .text s) ∨
    m = ("iat", .integer (signedInteger c.iat)) ∨ m = ("events", .object c.events.entries) := by
  simp only [members, List.mem_append, List.mem_singleton, or_assoc] at h
  rcases h with iss | jti | iat | aud | txn | rci | events
  · obtain rfl := mem_textMember iss
    exact .inl ⟨by simp, _, rfl⟩
  · obtain rfl := mem_textMember jti
    exact .inl ⟨by simp, _, rfl⟩
  · exact .inr (.inl iat)
  · obtain rfl := mem_textMember aud
    exact .inl ⟨by simp, _, rfl⟩
  · obtain ⟨s, rfl⟩ := mem_optionalMember txn
    exact .inl ⟨by simp, _, rfl⟩
  · obtain ⟨s, rfl⟩ := mem_optionalMember rci
    exact .inl ⟨by simp, _, rfl⟩
  · exact .inr (.inr (mem_eventsMember events))

/-- Event claims as a sorted map keeps them, with no floating-point number among them. -/
structure Claims.Plain (c : Claims) : Prop where
  canonical : ∀ e ∈ c.events.entries, e.2.Canonical
  floatless : ∀ e ∈ c.events.entries, e.2.Floatless

theorem Claims.Plain.floatless_members {c : Claims} (plain : c.Plain) :
    FloatlessMembers c.members := by
  apply floatlessMembers_iff.2
  intro m member
  rcases member_cases member with ⟨-, s, text⟩ | rfl | rfl
  · rw [text]
    exact trivial
  · exact trivial
  · exact floatlessMembers_iff.2 plain.floatless

theorem Claims.key_ne_subject {c : Claims} {m : String × Value} (h : m ∈ c.members) :
    m.1 ≠ "sub_id" := by
  rcases member_cases h with ⟨key, -⟩ | rfl | rfl
  · intro same
    rw [same] at key
    exact absurd key (by decide)
  · exact (by decide : "iat" ≠ "sub_id")
  · exact (by decide : "events" ≠ "sub_id")

/-! ## Claims taken back from their members -/

theorem signed?_signedInteger (n : Int64) :
    (Value.integer (signedInteger n)).signed? = .ok n := by
  have small : n.toInt < 0x8000000000000000 := Int64.toInt_lt n
  simp only [Value.signed?, signedInteger, if_pos small, Int64.ofInt_toInt]

/-- What has been read when the members of claims have been read: an empty claim is absent. -/
def Claims.found (c : Claims) : PartialClaims where
  iss := Draft.given (some c.iss)
  jti := Draft.given (some c.jti)
  iat := some c.iat
  aud := Draft.given (some c.aud)
  txn := c.txn.map some
  rci := c.rci.map some
  events := if c.events.isEmpty then none else some c.events.entries

theorem Claims.takeFields_members (c : Claims) :
    Json.takeFields PartialClaims.fields .empty c.members = .ok c.found := by
  let fields := PartialClaims.fields
  let s₁ : PartialClaims := { PartialClaims.empty with iss := Draft.given (some c.iss) }
  let s₂ : PartialClaims := { s₁ with jti := Draft.given (some c.jti) }
  let s₃ : PartialClaims := { s₂ with iat := some c.iat }
  let s₄ : PartialClaims := { s₃ with aud := Draft.given (some c.aud) }
  let s₅ : PartialClaims := { s₄ with txn := c.txn.map some }
  let s₆ : PartialClaims := { s₅ with rci := c.rci.map some }
  have iss : Json.takeFields fields .empty (textMember "iss" c.iss) = .ok s₁ := by
    simp only [textMember, s₁, Draft.given]
    split <;> rfl
  have jti : Json.takeFields fields s₁ (textMember "jti" c.jti) = .ok s₂ := by
    simp only [textMember, s₂, Draft.given]
    split <;> rfl
  have iat : Json.takeFields fields s₂ [("iat", .integer (signedInteger c.iat))] = .ok s₃ :=
    Json.takeFields_singleton rfl rfl (RecordField.take_ofShape (signed?_signedInteger c.iat))
  have aud : Json.takeFields fields s₃ (textMember "aud" c.aud) = .ok s₄ := by
    simp only [textMember, s₄, Draft.given]
    split <;> rfl
  have txn : Json.takeFields fields s₄ (optionalMember "txn" c.txn) = .ok s₅ := by
    show _ = Except.ok { s₄ with txn := c.txn.map some }
    cases c.txn <;> rfl
  have rci : Json.takeFields fields s₅ (optionalMember "rci" c.rci) = .ok s₆ := by
    show _ = Except.ok { s₅ with rci := c.rci.map some }
    cases c.rci <;> rfl
  have events : Json.takeFields fields s₆ (eventsMember c.events) = .ok c.found := by
    simp only [eventsMember, Claims.found]
    split <;> rfl
  exact Json.takeFields_append (Json.takeFields_append (Json.takeFields_append
    (Json.takeFields_append (Json.takeFields_append (Json.takeFields_append iss jti) iat) aud) txn)
    rci) events

/-- Event claims whose values are canonical are kept as they were written. -/
theorem eventsOfMembers_entries {events : Keyed Value}
    (canonical : ∀ e ∈ events.entries, e.2.Canonical) :
    eventsOfMembers events.entries = events := by
  have same : events.entries.map (fun m => (m.1, m.2.sorted)) = events.entries := by
    rw [List.map_congr_left (g := id), List.map_id]
    intro e member
    rw [Value.sorted_of_canonical e.2 (canonical e member), id]
  rw [eventsOfMembers, same, Keyed.ofList_entries]

theorem getD_given (s : String) : (Draft.given (some s)).getD "" = s := by
  by_cases empty : s = ""
  · simp [Draft.given, empty]
  · simp [Draft.given, empty]

theorem getD_map_some {α : Type} (o : Option α) : (o.map some).getD none = o := by
  cases o <;> rfl

/-- The absent events are the empty ones. -/
theorem eventsOfMembers_getD {events : Keyed Value}
    (canonical : ∀ e ∈ events.entries, e.2.Canonical) :
    eventsOfMembers ((if events.isEmpty then none else some events.entries).getD []) = events := by
  split
  · rename_i isEmpty
    have none : events.entries = [] := List.isEmpty_iff.1 isEmpty
    rw [Option.getD_none, ← none]
    exact eventsOfMembers_entries canonical
  · exact eventsOfMembers_entries canonical

theorem Claims.Plain.finish_found {c : Claims} (plain : c.Plain) : c.found.finish = .ok c := by
  simp only [found, PartialClaims.finish, getD_given, getD_map_some,
    eventsOfMembers_getD plain.canonical]

/-! ## Claims read back from their text -/

theorem PartialClaims.faithful {depth : Nat} : ∀ f ∈ fields, f.Faithful depth := by
  intro f member
  simp only [fields, List.mem_cons, List.not_mem_nil, or_false] at member
  rcases member with rfl | rfl | rfl | rfl | rfl | rfl | rfl
  · exact RecordField.ofShape_faithful Shape.string_faithful
  · exact RecordField.ofShape_faithful Shape.string_faithful
  · exact RecordField.ofShape_faithful Shape.signed_faithful
  · exact RecordField.ofShape_faithful Shape.string_faithful
  · exact RecordField.ofShape_faithful (Shape.optional_faithful Shape.string_faithful)
  · exact RecordField.ofShape_faithful (Shape.optional_faithful Shape.string_faithful)
  · exact RecordField.ofShape_faithful Shape.object_faithful

/-- An object with the members of claims, and with others behind them that claims do not have, is
read as the claims. -/
theorem Claims.Plain.ofText_write {c : Claims} (plain : c.Plain) (others : List (String × Value))
    (passed : Json.takeFields PartialClaims.fields c.found others = .ok c.found)
    (floatless : FloatlessMembers others)
    (shallow : (Value.object (c.members ++ others)).depth ≤ Json.maxDepth) :
    Claims.ofText (Value.object (c.members ++ others)).write = .ok c := by
  have walks : Walks (Json.readField PartialClaims.fields 126) .empty (c.members ++ others)
      c.found :=
    Walks.of_takeFields PartialClaims.faithful
      (Json.Value.floatlessMembers_append.2 ⟨plain.floatless_members, floatless⟩)
      (Nat.le_of_succ_le_succ shallow) (Json.takeFields_append c.takeFields_members passed)
  apply Json.readWhole_write
  simp only [readClaims, Json.maxDepth, Json.readRecord_chars walks, plain.finish_found]
  rfl

/-! ## Claims with a subject -/

theorem readCaepMember_kept {depth : Nat} {m : String × Value} (other : m.1 ≠ "sub_id")
    (floatless : m.2.Floatless) (shallow : m.2.depth ≤ depth)
    (state : Option Subject × List (String × Value)) {rest : List Char} (stops : Json.Stops rest) :
    readCaepMember depth m.1 state (':' :: (m.2.chars ++ rest))
      = .ok ((state.1, state.2 ++ [m]), rest) := by
  simp only [readCaepMember, if_neg other, Json.readColon_of_colon,
    Json.readValue_chars floatless shallow stops]
  rfl

/-- The text of claims and a subject walks to the subject and keeps the members of the claims. -/
theorem Claims.Plain.walks_with_subject {c : Claims} (plain : c.Plain) (s : Subject) (depth : Nat)
    (shallow : depthMembers c.members ≤ depth + 1) :
    Walks (readCaepMember (depth + 1)) (none, []) (c.members ++ [("sub_id", s.json)])
      (some s, c.members) := by
  refine Walks.append (Walks.of_kept ?_ none []) (.cons ?_ (.nil _))
  · intro m member state rest stops
    -- no claim is under the key of the subject
    have floatless : m.2.Floatless := floatlessMembers_iff.1 plain.floatless_members m member
    have depth_le := Nat.le_trans (Json.Value.depth_le_depthMembers member) shallow
    exact readCaepMember_kept (key_ne_subject member) floatless depth_le state stops
  · intro rest stops
    show (readSubject (depth + 1) (s.json.chars ++ rest)).map _ = _
    rw [readSubject_chars]
    rfl

theorem Claims.Plain.caepOfText_body {c : Claims} (plain : c.Plain) (s : Subject)
    (shallow : (Payload.caep c s).json.depth ≤ Json.maxDepth) :
    caepOfText (Payload.caep c s).body = .ok (c, s) := by
  have inner : depthMembers (c.members ++ [("sub_id", s.json)]) ≤ 126 :=
    Nat.le_of_succ_le_succ shallow
  rw [Json.Value.depthMembers_append] at inner
  have members := (plain.walks_with_subject s 125 (by omega)).walkMembers_chars []
  apply Json.readWhole_write
  rw [Payload.json, Value.chars, List.cons_append, List.append_assoc, List.singleton_append]
  simp only [readCaep, Json.maxDepth, Json.dropSpace_of_mark (c := '{') (by decide), members,
    c.takeFields_members, plain.finish_found, Except.map]

/-! ## Reading back -/

/-- Claims, claims with a subject and subjects are read back from their text, whatever characters
the texts have and whichever claims are left empty; and the text of claims with a subject, read as
claims alone, gives the claims. -/
theorem text_reads_back :
    (∀ c : Claims, c.Plain → (Payload.base c).json.depth ≤ Json.maxDepth →
      Claims.ofText (Payload.base c).body = .ok c) ∧
    (∀ (c : Claims) (s : Subject), c.Plain → (Payload.caep c s).json.depth ≤ Json.maxDepth →
      caepOfText (Payload.caep c s).body = .ok (c, s) ∧
        Claims.ofText (Payload.caep c s).body = .ok c) ∧
    ∀ s : Subject, Subject.ofText s.json.write = .ok s := by
  refine ⟨fun c plain shallow => ?_, fun c s plain shallow => ⟨?_, ?_⟩, fun s => ?_⟩
  · have whole := plain.ofText_write [] rfl trivial
    rw [List.append_nil] at whole
    exact whole shallow
  · exact plain.caepOfText_body s shallow
  · exact plain.ofText_write [("sub_id", s.json)] rfl ⟨s.floatless_json, trivial⟩ shallow
  · exact Json.readWhole_write (readSubject_chars s 126 [])

/-- Claims whose issuer is empty, whose id needs every kind of escape, and whose events hold nulls,
the least whole number and an object inside an array. -/
def escapedClaims : Claims where
  iss := ""
  jti := "\x00\t\"\\/é😀"
  iat := Int64.minValue
  aud := "https://hub.example"
  txn := some ""
  rci := none
  events := ⟨[("", .null), ("urn:e", .object [("a", .null), ("b", .array
    [.integer ⟨-0x8000000000000000, by decide, by decide⟩, .object [("k", .null)], .text "\n"])])],
    List.pairwise_pair.2 (by decide)⟩

theorem escapedClaims_plain : escapedClaims.Plain where
  canonical := by
    intro e member
    simp only [escapedClaims, List.mem_cons, List.not_mem_nil, or_false] at member
    rcases member with rfl | rfl
    · exact trivial
    · have keys : "a" < "b" := by decide
      exact ⟨List.pairwise_pair.2 keys, trivial, ⟨trivial, ⟨List.pairwise_singleton _ _, trivial,
        trivial⟩, trivial, trivial⟩, trivial⟩
  floatless := by
    simp [escapedClaims, Value.Floatless, Value.FloatlessMembers, Value.FloatlessItems]

theorem text_reads_back_sample :
    escapedClaims.Plain ∧
    (Payload.caep escapedClaims (.account "acct:é")).json.depth ≤ Json.maxDepth ∧
    Claims.ofText (Payload.base escapedClaims).body = .ok escapedClaims ∧ 
    caepOfText (Payload.caep escapedClaims (.account "acct:é")).body
        = .ok (escapedClaims, .account "acct:é") ∧
    Claims.ofText (Payload.caep escapedClaims (.account "acct:é")).body = .ok escapedClaims ∧
    Subject.ofText (Subject.uri "acct:é").json.write = .ok (.uri "acct:é") := by
  have base := text_reads_back.1 escapedClaims escapedClaims_plain (by decide)
  have caep := text_reads_back.2.1 escapedClaims (.account "acct:é") escapedClaims_plain (by decide)
  have subject := text_reads_back.2.2 (.uri "acct:é")
  exact ⟨escapedClaims_plain, by decide, base, caep.1, caep.2, subject⟩
end HubPublisher.Event
