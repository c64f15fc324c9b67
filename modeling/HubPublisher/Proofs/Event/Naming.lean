import HubPublisher.Proofs.Event.File

/-!
Which subjects a payload file can name.

The member for the subject is read when it is `null` or describes a subject
(`readField_subject_iff`). Nothing is asked of the values that it gives, so a file names any subject
at all, also one that cannot be made from values because one of them is empty.
-/
namespace HubPublisher.Event

open Json (LocalOn Stops Value Walks map_eq_ok)
open Json.Value (depthMembers)

/-! ## The subject of a file -/

/-- The member that holds the subject of a file is read when it is `null` or describes a subject. -/
theorem readField_subject_iff {v : Value} {depth : Nat} (floatless : v.Floatless)
    (shallow : v.depth ≤ depth) {found t : PartialFile} (unset : found.subject = none)
    {rest after : List Char} :
    Json.readField PartialFile.fields depth "sub_id" found (':' :: (v.chars ++ rest))
        = .ok (t, after) ↔
      after = rest ∧ ((v = .null ∧ t = { found with subject := some none }) ∨
        ∃ s : Subject, s.DescribedBy v ∧ t = { found with subject := some (some s) }) := by
  have field : Json.readField PartialFile.fields depth "sub_id" found (':' :: (v.chars ++ rest))
      = (Json.readOptional (readSubject depth) (v.chars ++ rest)).map
          fun r => ({ found with subject := some r.1 }, r.2) := by
    show (if found.subject.isSome then _ else _) = _
    rw [unset]
    rfl
  rw [field]
  by_cases null : v = .null
  · subst null
    show Except.ok ({ found with subject := some none }, rest) = _ ↔ _
    constructor
    · intro read
      cases read
      exact ⟨rfl, .inl ⟨rfl, rfl⟩⟩
    · intro ⟨ended, result⟩
      rcases result with ⟨-, result⟩ | ⟨s, described, -⟩
      · rw [ended, result]
      · exact described.elim
  · rw [Json.Shape.readOptional_eq_map floatless null]
    constructor
    · intro read
      obtain ⟨r, optional, result⟩ := map_eq_ok.1 read
      obtain ⟨⟨s, behind⟩, subject, rfl⟩ := map_eq_ok.1 optional
      obtain ⟨described, ended⟩ := (readSubject_chars_iff floatless shallow).1 subject
      cases result
      exact ⟨ended, .inr ⟨s, described, rfl⟩⟩
    · intro ⟨ended, result⟩
      rcases result with ⟨same, -⟩ | ⟨s, described, result⟩
      · exact absurd same null
      · rw [(readSubject_chars_iff floatless shallow).2 ⟨described, ended⟩, result]
        rfl

/-- A file that states claims and a value for the subject is read when the value is `null` or
describes a subject. -/
theorem found_with_subject {c : Claims} (drafted : c.Drafted) (plain : c.Plain) {v : Value}
    (floatless : v.Floatless)
    (shallow : (Value.object (c.members ++ [("sub_id", v)])).depth ≤ Json.maxDepth)
    (t : PartialFile) :
    PayloadFile.found (Value.object (c.members ++ [("sub_id", v)])).write = .ok t ↔
      (v = .null ∧ t = { c.fileFound with subject := some none }) ∨
        ∃ s : Subject, s.DescribedBy v ∧ t = { c.fileFound with subject := some (some s) } := by
  have inner : depthMembers (c.members ++ [("sub_id", v)]) ≤ 126 := Nat.le_of_succ_le_succ shallow
  rw [Json.Value.depthMembers_append, depthMembers, depthMembers] at inner
  have front : Walks (Json.readField PartialFile.fields 126) .empty c.members c.fileFound :=
    Walks.of_takeFields PartialFile.faithful plain.floatless_members (by omega)
      drafted.takeFields_members
  have last : ∀ {t : PartialFile} {rest after : List Char},
      Json.readField PartialFile.fields 126 "sub_id" c.fileFound (':' :: (v.chars ++ rest))
        = .ok (t, after) ↔ after = rest ∧ _ :=
    readField_subject_iff floatless (by omega) rfl
  have localOn : LocalOn (Json.readField PartialFile.fields 126) .empty
      (c.members ++ [("sub_id", v)]) := by
    apply LocalOn.of_walks front
    intro t rest after stops read
    obtain ⟨ended, result⟩ := last.1 read
    exact ⟨ended, trivial, fun other _ => last.2 ⟨rfl, result⟩⟩
  rw [PayloadFile.found_write_iff localOn, front.append_iff, Walks.singleton_iff]
  constructor
  · intro first
    exact (last.1 (first [] Json.stops_nil)).2
  · intro result rest _
    exact last.2 ⟨rfl, result⟩

/-- The payload of a text is about the subject that its file names. Where the text states claims and
a value for the subject, that is the subject which the value describes, in whatever order and
whatever texts the value gives, and without such a subject the text is no file of such a payload. A
subject made from values has none that is empty, but nothing asks that of the subject of a file. -/
theorem file_subject_as_described (text : String) :
    (∀ f, PayloadFile.ofText text = .ok f →
      ∀ fresh now p, f.payload fresh now = .ok p → p.subject = f.subject ∧
        ∀ s, p.subject = some s →
          (Subject.make? s.format s.values = some s ↔ ∀ v ∈ s.values, v ≠ "")) ∧
    ∀ (c : Claims) (v : Value), c.Drafted → c.Plain → v.Floatless →
      (Value.object (c.members ++ [("sub_id", v)])).depth ≤ Json.maxDepth →
      text = (Value.object (c.members ++ [("sub_id", v)])).write →
      ∀ s fresh now,
        (∃ f, PayloadFile.ofText text = .ok f ∧ f.payload fresh now = .ok (.caep c s)) ↔
          s.DescribedBy v := by
  constructor
  · intro f _ fresh now p closed
    obtain ⟨-, -, -, subject⟩ := PayloadFile.payload_eq_ok.1 closed
    exact ⟨subject, fun s _ => Subject.make?_values⟩
  · intro c v drafted plain floatless shallow written s fresh now
    rw [written]
    have found := found_with_subject drafted plain floatless shallow
    constructor
    · intro ⟨f, read, closed⟩
      obtain ⟨t, result, finished⟩ := PayloadFile.ofText_eq_ok.1 read
      obtain ⟨-, -, -, -, -, -, -, named⟩ := PartialFile.finish_eq_ok.1 finished
      obtain ⟨-, -, -, subject⟩ := PayloadFile.payload_eq_ok.1 closed
      rcases (found t).1 result with ⟨-, rfl⟩ | ⟨s', described, rfl⟩
      · -- a file that names no subject has a payload about none
        cases named.trans subject.symm
      · cases named.trans subject.symm
        exact described
    · intro described
      have result := (found _).2 (.inr ⟨s, described, rfl⟩)
      have finished := Payload.finish_fileFound (p := .caep c s) plain
      exact ⟨_, PayloadFile.ofText_eq_ok.2 ⟨_, result, finished⟩,
        Payload.payload_file (p := .caep c s) drafted fresh now⟩

/-- Claims without events. -/
def briefClaims : Claims where
  iss := "https://idp.example"
  jti := "t-1"
  iat := 1
  aud := "https://rp.example"
  txn := none
  rci := none
  events := Keyed.empty

theorem briefClaims_drafted : briefClaims.Drafted := by
  constructor
  · decide
  · decide
  · decide
  · rfl
  · rfl
  · exact nofun

theorem briefClaims_plain : briefClaims.Plain := ⟨nofun, nofun⟩

/-- A subject without an address, its property before its format and a third member between. -/
def unaddressed : Value :=
  .object [("email", .text ""), ("name", .null), ("format", .text "email")]

theorem unaddressed_describes : (Subject.email "").DescribedBy unaddressed :=
  List.Perm.swap _ _ _

/-- The text of a file that names it. -/
def unaddressedText : String :=
  (Value.object (briefClaims.members ++ [("sub_id", unaddressed)])).write

theorem file_subject_as_described_unaddressed :
    briefClaims.Drafted ∧ briefClaims.Plain ∧ unaddressed.Floatless ∧
    (Value.object (briefClaims.members ++ [("sub_id", unaddressed)])).depth ≤ Json.maxDepth ∧
    ∃ f, PayloadFile.ofText unaddressedText = .ok f ∧
      f.payload "t-2" 2 = .ok (.caep briefClaims (.email "")) ∧
      some (.email "") = f.subject ∧
      (Subject.make? .email [""] = some (.email "") ↔ ∀ v ∈ [""], v ≠ "") := by
  have floatless : unaddressed.Floatless := ⟨trivial, trivial, trivial, trivial⟩
  have shallow : (Value.object (briefClaims.members ++ [("sub_id", unaddressed)])).depth
      ≤ Json.maxDepth := by
    decide
  obtain ⟨reads, writes⟩ := file_subject_as_described unaddressedText
  obtain ⟨f, read, closed⟩ := (writes briefClaims unaddressed briefClaims_drafted
    briefClaims_plain floatless shallow rfl (.email "") "t-2" 2).2 unaddressed_describes
  obtain ⟨subject, made⟩ := reads f read "t-2" 2 _ closed
  exact ⟨briefClaims_drafted, briefClaims_plain, floatless, shallow, f, read, closed, subject,
    made _ rfl⟩

/-- A file is accepted with a subject whose address is empty, which no values make. -/
theorem empty_address_accepted :
    (∃ f, PayloadFile.ofText (Payload.caep briefClaims (.email "")).body = .ok f ∧
      f.payload "t-2" 2 = .ok (.caep briefClaims (.email ""))) ∧
    ∀ vs, Subject.make? .email vs ≠ some (.email "") := by
  refine ⟨⟨_, Payload.ofText_body briefClaims_drafted briefClaims_plain (by decide),
    Payload.payload_file (p := .caep briefClaims (.email "")) briefClaims_drafted "t-2" 2⟩, ?_⟩
  intro vs made
  exact (Subject.make?_eq_some.1 made).2 "" List.mem_cons_self rfl

end HubPublisher.Event
