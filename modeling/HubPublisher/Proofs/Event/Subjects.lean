import HubPublisher.Proofs.Event.Described

/-!
Which texts are read as a subject.

The members of an object are read one by one: the format once, from a text that names one, and all
others are kept, whatever they are. So the walk over an object ends with a format exactly when the
format stands in one place, and with what stands before and behind it
(`readSubjectMember_walks_none`). The text of a value is then read as a subject when the value
describes the subject, and in no other way (`readSubject_chars_iff`). What a subject is written as
describes it, so it is read back.
-/
namespace HubPublisher.Event

open Json (LocalOn Stops Value Walks map_eq_ok)
open Json.Value (FloatlessItems FloatlessMembers depthItems depthMembers floatlessMembers_iff)

/-! ## Formats and members -/

theorem readFormat_chars (f : SubjectFormat) (rest : List Char) :
    readFormat ((Value.text f.name).chars ++ rest) = .ok (f, rest) := by
  have name : Json.readText (f.name.toList.flatMap Json.escapeChar ++ '"' :: rest)
      = .ok (f.name, rest) := Json.readText_written f.name rest
  rw [Value.chars, Json.quoteChars_append]
  simp only [readFormat, Json.dropSpace_of_mark (c := '"') (by decide), name,
    SubjectFormat.ofName?_name]

theorem readFormat_chars_iff {v : Value} (floatless : v.Floatless) {f : SubjectFormat}
    {rest after : List Char} :
    readFormat (v.chars ++ rest) = .ok (f, after) ↔ v = .text f.name ∧ after = rest := by
  constructor
  · intro read
    obtain ⟨c, cs, written, space, -⟩ := Value.chars_head floatless
    by_cases mark : c = '"'
    · obtain ⟨t, rfl⟩ := (Value.chars_head_mark floatless written).1 mark
      have text : Json.readText (t.toList.flatMap Json.escapeChar ++ '"' :: rest) = .ok (t, rest) :=
        Json.readText_written t rest
      rw [Value.chars, Json.quoteChars_append] at read
      simp only [readFormat, Json.dropSpace_of_mark (c := '"') (by decide), text] at read
      split at read
      · rename_i g found
        cases read
        exact ⟨congrArg Value.text (SubjectFormat.ofName?_eq_some.1 found), rfl⟩
      · cases read
    · rw [written, List.cons_append, readFormat] at read
      simp only [Json.dropSpace_of_mark space] at read
      split at read
      · rename_i same
        exact absurd (List.cons.inj same).1 mark
      · exact absurd read Json.readMismatch_ne_ok
  · intro ⟨text, ended⟩
    rw [text, ended, readFormat_chars]

theorem readSubjectMember_kept {depth : Nat} {m : String × Value} (other : m.1 ≠ "format")
    (floatless : m.2.Floatless) (shallow : m.2.depth ≤ depth)
    (state : Option SubjectFormat × List (String × Value)) {rest : List Char}
    (stops : Json.Stops rest) :
    readSubjectMember depth m.1 state (':' :: (m.2.chars ++ rest))
      = .ok ((state.1, state.2 ++ [m]), rest) := by
  simp only [readSubjectMember, if_neg other, Json.readColon_of_colon,
    Json.readValue_chars floatless shallow stops]
  rfl

section Members

variable {depth : Nat} {f : SubjectFormat} {members : List (String × Value)}

/-- A subject's format is read once, from a text that is its name. -/
theorem readSubjectMember_format {v : Value} (floatless : v.Floatless)
    {state t : Option SubjectFormat × List (String × Value)} {rest after : List Char} :
    readSubjectMember depth "format" state (':' :: (v.chars ++ rest)) = .ok (t, after) ↔
      state.1 = none ∧ after = rest ∧ ∃ f, v = .text f.name ∧ t = (some f, state.2) := by
  obtain ⟨format, kept⟩ := state
  cases format with
  | some f => exact iff_of_false nofun fun ⟨absent, _⟩ => nomatch absent
  | none =>
    show (readFormat (v.chars ++ rest)).map _ = _ ↔ _
    rw [map_eq_ok]
    constructor
    · intro ⟨⟨f, behind⟩, read, result⟩
      obtain ⟨text, ended⟩ := (readFormat_chars_iff floatless).1 read
      cases result
      exact ⟨rfl, ended, f, text, rfl⟩
    · intro ⟨_, ended, f, text, result⟩
      rw [result]
      exact ⟨(f, after), (readFormat_chars_iff floatless).2 ⟨text, ended⟩, rfl⟩

theorem readSubjectMember_localOn (floatless : FloatlessMembers members)
    (shallow : depthMembers members ≤ depth)
    (state : Option SubjectFormat × List (String × Value)) :
    LocalOn (readSubjectMember depth) state members := by
  induction members generalizing state with
  | nil => exact trivial
  | cons m members ih =>
    rw [FloatlessMembers] at floatless
    rw [depthMembers] at shallow
    have more := fun t => ih floatless.2 (by omega) t
    intro t rest after stops read
    by_cases format : m.1 = "format"
    · rw [format] at read ⊢
      obtain ⟨first, ended, named⟩ := (readSubjectMember_format floatless.1).1 read
      exact ⟨ended, more t, fun other _ =>
        (readSubjectMember_format floatless.1).2 ⟨first, rfl, named⟩⟩
    · have first : m.2.depth ≤ depth := by omega
      have kept : ∀ other, Stops other →
          readSubjectMember depth m.1 state (':' :: (m.2.chars ++ other))
            = .ok ((state.1, state.2 ++ [m]), other) :=
        fun other stops => readSubjectMember_kept format floatless.1 first state stops
      rw [kept rest stops] at read
      cases read
      exact ⟨rfl, more _, kept⟩

/-- Members other than the format are kept. -/
theorem readSubjectMember_walks_kept (floatless : FloatlessMembers members)
    (shallow : depthMembers members ≤ depth) (apart : ∀ m ∈ members, m.1 ≠ "format")
    (format : Option SubjectFormat) (kept : List (String × Value)) :
    Walks (readSubjectMember depth) (format, kept) members (format, kept ++ members) := by
  apply Walks.of_kept
  intro m there state rest stops
  exact readSubjectMember_kept (apart m there) (floatlessMembers_iff.1 floatless m there)
    (Nat.le_trans (Json.Value.depth_le_depthMembers there) shallow) state stops

/-- What a member other than the format leads to. -/
theorem readSubjectMember_first {m : String × Value} (other : m.1 ≠ "format")
    (floatless : m.2.Floatless) (shallow : m.2.depth ≤ depth)
    {state t : Option SubjectFormat × List (String × Value)}
    (first : ∀ rest, Stops rest →
      readSubjectMember depth m.1 state (':' :: (m.2.chars ++ rest)) = .ok (t, rest)) :
    t = (state.1, state.2 ++ [m]) := by
  have read := first [] Json.stops_nil
  rw [readSubjectMember_kept other floatless shallow state Json.stops_nil] at read
  cases read
  rfl

/-- Once the format has been read it may not come again. -/
theorem readSubjectMember_walks_some (floatless : FloatlessMembers members)
    (shallow : depthMembers members ≤ depth) {kept : List (String × Value)}
    {t : Option SubjectFormat × List (String × Value)} :
    Walks (readSubjectMember depth) (some f, kept) members t ↔
      (∀ m ∈ members, m.1 ≠ "format") ∧ t = (some f, kept ++ members) := by
  constructor
  · intro walks
    induction members generalizing kept with
    | nil =>
      cases walks
      exact ⟨nofun, by rw [List.append_nil]⟩
    | cons m members ih =>
      rw [FloatlessMembers] at floatless
      rw [depthMembers] at shallow
      cases walks with
      | cons first more =>
        have other : m.1 ≠ "format" := by
          intro format
          have read := first [] Json.stops_nil
          rw [format, readSubjectMember_format floatless.1] at read
          cases read.1
        obtain rfl := readSubjectMember_first other floatless.1 (by omega) first
        obtain ⟨apart, result⟩ := ih floatless.2 (by omega) more
        refine ⟨?_, by rw [result, List.append_assoc, List.singleton_append]⟩
        intro m' there
        rcases List.mem_cons.1 there with rfl | there
        · exact other
        · exact apart m' there
  · intro ⟨apart, result⟩
    rw [result]
    exact readSubjectMember_walks_kept floatless shallow apart (some f) kept

/-- The walk over members that ends with a format has passed it in one place and kept the members
before and behind it. -/
theorem readSubjectMember_walks_none (floatless : FloatlessMembers members)
    (shallow : depthMembers members ≤ depth) {kept all : List (String × Value)} :
    Walks (readSubjectMember depth) (none, kept) members (some f, all) ↔
      ∃ before after, members = before ++ ("format", .text f.name) :: after ∧
        (∀ m ∈ before ++ after, m.1 ≠ "format") ∧ all = kept ++ (before ++ after) := by
  constructor
  · intro walks
    induction members generalizing kept with
    | nil => cases walks
    | cons m members ih =>
      rw [FloatlessMembers] at floatless
      rw [depthMembers] at shallow
      cases walks with
      | cons first more =>
        by_cases format : m.1 = "format"
        · have read := first [] Json.stops_nil
          rw [format, readSubjectMember_format floatless.1] at read
          obtain ⟨-, -, g, text, rfl⟩ := read
          obtain ⟨apart, result⟩ :=
            (readSubjectMember_walks_some floatless.2 (by omega)).1 more
          cases result
          exact ⟨[], members, by rw [← text, ← format]; rfl, apart, rfl⟩
        · obtain rfl := readSubjectMember_first format floatless.1 (by omega) first
          obtain ⟨before, after, split, apart, result⟩ := ih floatless.2 (by omega) more
          refine ⟨m :: before, after, by rw [split]; rfl, ?_, ?_⟩
          · intro m' there
            rcases List.mem_cons.1 there with rfl | there
            · exact format
            · exact apart m' there
          · rw [result, List.append_assoc]
            rfl
  · intro ⟨before, after, split, apart, result⟩
    subst split result
    rw [Json.Value.floatlessMembers_append, FloatlessMembers] at floatless
    rw [Json.Value.depthMembers_append, depthMembers] at shallow
    obtain ⟨early, late⟩ := List.forall_mem_append.1 apart
    refine (readSubjectMember_walks_kept floatless.1 (by omega) early none kept).append ?_
    refine .cons (t := (some f, kept ++ before)) (fun rest _ => ?_) ?_
    · exact (readSubjectMember_format (v := .text f.name) trivial).2 ⟨rfl, rfl, f, rfl, rfl⟩
    · rw [← List.append_assoc]
      exact readSubjectMember_walks_kept floatless.2.2 (by omega) late (some f) _

end Members

/-! ## Texts that are read as a subject -/

theorem readSubject_object_iff {members : List (String × Value)} {depth : Nat}
    (floatless : FloatlessMembers members) (shallow : depthMembers members ≤ depth) {s : Subject}
    {rest after : List Char} :
    readSubject (depth + 1) ((Value.object members).chars ++ rest) = .ok (s, after) ↔
      s.DescribedBy (.object members) ∧ after = rest := by
  rw [Value.chars, List.cons_append, List.append_assoc, List.singleton_append]
  simp only [readSubject, Json.dropSpace_of_mark (c := '{') (by decide)]
  constructor
  · intro read
    split at read
    · cases read
    · cases read
    · rename_i f others behind walked
      obtain ⟨walks, ended⟩ :=
        (readSubjectMember_localOn floatless shallow (none, [])).walkMembers_chars_iff.1 walked
      obtain ⟨early, late, split, apart, kept⟩ :=
        (readSubjectMember_walks_none floatless shallow).1 walks
      obtain ⟨t, made, result⟩ := map_eq_ok.1 read
      cases result
      obtain ⟨rfl, -⟩ := Subject.ofMembers_eq_ok.1 made
      rw [kept, List.nil_append] at made
      exact ⟨Subject.describedBy_object.2 ⟨early, late, split, apart, made⟩, ended⟩
  · intro ⟨described, ended⟩
    obtain ⟨early, late, split, apart, made⟩ := Subject.describedBy_object.1 described
    have walks : Walks (readSubjectMember depth) (none, []) members
        (some s.format, early ++ late) :=
      (readSubjectMember_walks_none floatless shallow).2 ⟨early, late, split, apart, rfl⟩
    simp only [walks.walkMembers_chars rest, made, ended]
    rfl

theorem readSubject_array_iff {items : List Value} {depth : Nat}
    (floatless : FloatlessItems items) (shallow : depthItems items ≤ depth) {s : Subject}
    {rest after : List Char} :
    readSubject (depth + 1) ((Value.array items).chars ++ rest) = .ok (s, after) ↔
      s.DescribedBy (.array items) ∧ after = rest := by
  rw [Value.chars, List.cons_append, List.append_assoc, List.singleton_append]
  cases items with
  | nil => exact iff_of_false nofun fun ⟨described, _⟩ => nomatch described
  | cons v items =>
    rw [FloatlessItems] at floatless
    rw [depthItems] at shallow
    obtain ⟨c, cs, written, space, close, comma, -⟩ := Value.chars_head floatless.1
    let tail := Value.behindCommas (items.map Value.chars) ++ ']' :: rest
    have items_read : Json.readItemsWith (2 * tail.length + 2) depth false tail = .ok (items, rest) := by
      apply Json.readMoreItems _ depth rest items floatless.2 _ (by omega)
      simp only [tail, List.length_append]
      omega
    have first : Json.nextItem true (v.chars ++ tail) = .ok (some (v.chars ++ tail)) := by
      rw [written]
      exact Json.nextItem_of_first space close comma (cs ++ tail)
    rw [Value.charsItems_cons, List.append_assoc]
    show readSubject (depth + 1) ('[' :: (v.chars ++ tail)) = _ ↔ _
    simp only [readSubject, Json.dropSpace_of_mark (c := '[') (by decide), first]
    constructor
    · intro read
      split at read
      · cases read
      · rename_i f behind format
        obtain ⟨text, behind⟩ := (readFormat_chars_iff floatless.1).1 format
        rw [behind, items_read] at read
        obtain ⟨t, made, result⟩ := map_eq_ok.1 read
        cases result
        obtain ⟨rfl, values⟩ := Subject.ofItems_eq_ok.1 made
        exact ⟨by rw [Subject.DescribedBy, text, values], rfl⟩
    · intro ⟨described, ended⟩
      obtain ⟨text, values⟩ := List.cons.inj described
      have format : readFormat (v.chars ++ tail) = .ok (s.format, tail) :=
        (readFormat_chars_iff floatless.1).2 ⟨text, rfl⟩
      simp only [format, items_read, Subject.ofItems_eq_ok.2 ⟨rfl, values⟩, ended]
      rfl

/-- The text of a value is read as a subject exactly when the value describes the subject. -/
theorem readSubject_chars_iff {v : Value} {depth : Nat} (floatless : v.Floatless)
    (shallow : v.depth ≤ depth) {s : Subject} {rest after : List Char} :
    readSubject depth (v.chars ++ rest) = .ok (s, after) ↔ s.DescribedBy v ∧ after = rest := by
  obtain ⟨c, cs, written, space, -⟩ := Value.chars_head floatless
  obtain ⟨-, array, object⟩ := Value.chars_head_mark floatless written
  by_cases brace : c = '{'
  · obtain ⟨members, rfl⟩ := object brace
    obtain ⟨depth, rfl⟩ : ∃ n, depth = n + 1 := ⟨depth - 1, by rw [Value.depth] at shallow; omega⟩
    exact readSubject_object_iff floatless (Nat.le_of_succ_le_succ shallow)
  · by_cases bracket : c = '['
    · obtain ⟨items, rfl⟩ := array bracket
      obtain ⟨depth, rfl⟩ : ∃ n, depth = n + 1 := ⟨depth - 1, by rw [Value.depth] at shallow; omega⟩
      exact readSubject_array_iff floatless (Nat.le_of_succ_le_succ shallow)
    · -- nothing else starts a subject
      refine iff_of_false ?_ ?_
      · intro read
        rw [written, List.cons_append, readSubject] at read
        simp only [Json.dropSpace_of_mark space] at read
        split at read
        · rename_i same
          exact brace (List.cons.inj same).1
        · rename_i same
          exact bracket (List.cons.inj same).1
        · exact Json.readMismatch_ne_ok read
      · intro h
        have described := h.1
        cases v with
        | object members =>
          cases written
          exact brace rfl
        | array items =>
          cases written
          exact bracket rfl
        | _ => exact described

theorem readSubject_chars (s : Subject) (depth : Nat) (rest : List Char) :
    readSubject (depth + 1) (s.json.chars ++ rest) = .ok (s, rest) := by
  have shallow : s.json.depth ≤ depth + 1 := by
    have one : s.json.depth = 1 := by cases s <;> rfl
    omega
  exact (readSubject_chars_iff s.floatless_json shallow).2 ⟨s.describedBy_json, rfl⟩

end HubPublisher.Event
