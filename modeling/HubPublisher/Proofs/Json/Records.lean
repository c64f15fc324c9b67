import HubPublisher.Json.Record
import HubPublisher.Proofs.Json.Values

/-!
Written records are read back member by member.

What a member does to the state of a reader does not depend on what stands behind it, as long as a
number stops there (`Walks`). Where that is so of every step that succeeds, a written object is read
in no other way than its members are walked (`LocalOn.walkMembers_chars_iff`).

A field is faithful when reading a written value has the effect that taking the value has. For
faithful fields the walk over an object's text ends in the state in which `takeFields` ends over its
members, so a record is read back from text as soon as it is taken back from members, and the text
plays no further part.
-/
namespace HubPublisher.Json

open Value

variable {σ α : Type}

theorem map_eq_ok {ε α β : Type} {x : Except ε α} {g : α → β} {b : β} :
    x.map g = .ok b ↔ ∃ a, x = .ok a ∧ g a = b := by
  cases x <;> simp [Except.map]

/-! ## Walks over members -/

/-- The members of an object take a reader from one state to another, one by one. -/
inductive Walks (step : String → σ → Reader σ) : σ → List (String × Value) → σ → Prop
  | nil (s : σ) : Walks step s [] s
  | cons {s t u : σ} {m : String × Value} {members : List (String × Value)}
      (first : ∀ rest, Stops rest → step m.1 s (':' :: (m.2.chars ++ rest)) = .ok (t, rest))
      (more : Walks step t members u) : Walks step s (m :: members) u

namespace Walks

variable {step : String → σ → Reader σ} {s t u : σ} {members : List (String × Value)}

theorem append {others : List (String × Value)} (h : Walks step s members t)
    (h' : Walks step t others u) : Walks step s (members ++ others) u := by
  induction h with
  | nil s => exact h'
  | cons first more ih => exact .cons first (ih h')

/-- A walk over members goes on behind them from the state in which it left them. -/
theorem append_iff {others : List (String × Value)} (h : Walks step s members t) :
    Walks step s (members ++ others) u ↔ Walks step t others u := by
  refine ⟨fun whole => ?_, h.append⟩
  induction h with
  | nil s => exact whole
  | cons first more ih =>
    cases whole with
    | cons first' more' =>
      -- each step has one outcome
      have same := (first [] stops_nil).symm.trans (first' [] stops_nil)
      cases same
      exact ih more'

theorem singleton_iff {m : String × Value} :
    Walks step s [m] t ↔
      ∀ rest, Stops rest → step m.1 s (':' :: (m.2.chars ++ rest)) = .ok (t, rest) := by
  constructor
  · intro walks
    cases walks with
    | cons first more =>
      cases more
      exact first
  · exact fun first => .cons first (.nil t)

/-- A reader that keeps each member keeps them all. -/
theorem of_kept {step : String → α × List (String × Value) → Reader (α × List (String × Value))}
    (keeps : ∀ m ∈ members, ∀ state rest, Stops rest →
      step m.1 state (':' :: (m.2.chars ++ rest)) = .ok ((state.1, state.2 ++ [m]), rest))
    (a : α) (kept : List (String × Value)) :
    Walks step (a, kept) members (a, kept ++ members) := by
  induction members generalizing kept with
  | nil =>
    rw [List.append_nil]
    exact .nil _
  | cons m members ih =>
    have more := ih (fun m' hm => keeps m' (List.mem_cons_of_mem m hm)) (kept ++ [m])
    rw [List.append_assoc, List.singleton_append] at more
    exact .cons (keeps m List.mem_cons_self (a, kept)) more

theorem readMore (fuel : Nat) (rest : List Char) (h : Walks step s members t)
    (hf : members.length < fuel) :
    readMembers step fuel false s (behindCommas (members.map memberChars) ++ '}' :: rest)
      = .ok (t, rest) := by
  induction h generalizing fuel with
  | nil s =>
    obtain ⟨fuel, rfl⟩ : ∃ n, fuel = n + 1 := ⟨fuel - 1, by omega⟩
    rfl
  | @cons s t u m members first more ih =>
    obtain ⟨fuel, rfl⟩ : ∃ n, fuel = n + 1 := ⟨fuel - 1, by omega⟩
    have here := first _ (stops_behindCommas (c := '}') (by decide) (members.map memberChars) rest)
    have after := ih fuel (by simpa using hf)
    have text : behindCommas ((m :: members).map memberChars) ++ '}' :: rest
        = ',' :: (memberChars m ++ (behindCommas (members.map memberChars) ++ '}' :: rest)) := by
      simp [behindCommas]
    rw [text]
    simp only [readMembers, nextKey_of_comma, here, after]

/-- No text has as many members as characters. -/
theorem length_le_behindCommas (members : List (String × Value)) :
    members.length ≤ (behindCommas (members.map memberChars)).length := by
  induction members with
  | nil => exact Nat.zero_le _
  | cons m members ih =>
    simp only [behindCommas, List.map_cons, List.flatMap_cons, List.length_append,
      List.length_cons] at ih ⊢
    omega

/-- The walk over a written object ends where the walk over its members ends. -/
theorem walkMembers_chars (h : Walks step s members t) (rest : List Char) :
    walkMembers step s (charsMembers members ++ '}' :: rest) = .ok (t, rest) := by
  cases h with
  | nil => rfl
  | @cons _ t _ m members first more =>
    have here := first _ (stops_behindCommas (c := '}') (by decide) (members.map memberChars) rest)
    -- the walk has fuel for each character, so it has some for each member
    have enough := length_le_behindCommas members
    have after := more.readMore (charsMembers (m :: members) ++ '}' :: rest).length rest
      (by simp only [charsMembers_cons, List.length_append, List.length_cons]; omega)
    rw [walkMembers]
    simp only [readMembers]
    rw [charsMembers_cons, List.append_assoc] at after ⊢
    simp only [nextKey_of_first, here, after]

end Walks

/-- What a step makes of each written member, when it makes something of it, does not depend on what
stands behind the member, and the step ends there. The states are those that the steps lead to. -/
def LocalOn (step : String → σ → Reader σ) : σ → List (String × Value) → Prop
  | _, [] => True
  | s, m :: members => ∀ ⦃t : σ⦄ ⦃rest after : List Char⦄, Stops rest →
      step m.1 s (':' :: (m.2.chars ++ rest)) = .ok (t, after) →
        after = rest ∧ LocalOn step t members ∧
        ∀ other, Stops other → step m.1 s (':' :: (m.2.chars ++ other)) = .ok (t, other)

namespace LocalOn

variable {step : String → σ → Reader σ} {s t u : σ} {members : List (String × Value)}

/-- Members that were walked are local, and others behind them are local after the walk. -/
theorem of_walks {others : List (String × Value)} (h : Walks step s members t)
    (local' : LocalOn step t others) : LocalOn step s (members ++ others) := by
  induction h with
  | nil s => exact local'
  | @cons s t u m members first more ih =>
    intro t' rest after stops stepped
    rw [first rest stops] at stepped
    cases stepped
    exact ⟨rfl, ih local', first⟩

theorem walks_of_readMore {fuel : Nat} {rest after : List Char} (h : LocalOn step s members)
    (hf : members.length < fuel)
    (read : readMembers step fuel false s (behindCommas (members.map memberChars) ++ '}' :: rest)
      = .ok (t, after)) : Walks step s members t ∧ after = rest := by
  induction members generalizing s fuel with
  | nil =>
    obtain ⟨fuel, rfl⟩ : ∃ n, fuel = n + 1 := ⟨fuel - 1, by omega⟩
    cases read
    exact ⟨.nil _, rfl⟩
  | cons m members ih =>
    obtain ⟨fuel, rfl⟩ : ∃ n, fuel = n + 1 := ⟨fuel - 1, by omega⟩
    have text : behindCommas ((m :: members).map memberChars) ++ '}' :: rest
        = ',' :: (memberChars m ++ (behindCommas (members.map memberChars) ++ '}' :: rest)) := by
      simp [behindCommas]
    rw [text] at read
    simp only [readMembers, nextKey_of_comma] at read
    split at read
    · cases read
    · rename_i u behind stepped
      obtain ⟨rfl, more, first⟩ :=
        h (stops_behindCommas (c := '}') (by decide) (members.map memberChars) rest) stepped
      obtain ⟨walks, ended⟩ := ih more (by simpa using hf) read
      exact ⟨.cons first walks, ended⟩

/-- Where each member is local, a written object is read exactly as its members are walked. -/
theorem walkMembers_chars_iff (h : LocalOn step s members) {rest after : List Char} :
    walkMembers step s (charsMembers members ++ '}' :: rest) = .ok (t, after) ↔
      Walks step s members t ∧ after = rest := by
  constructor
  · intro read
    cases members with
    | nil =>
      cases read
      exact ⟨.nil _, rfl⟩
    | cons m members =>
      have enough := Walks.length_le_behindCommas members
      rw [walkMembers] at read
      simp only [readMembers] at read
      rw [charsMembers_cons, List.append_assoc] at read
      simp only [nextKey_of_first] at read
      split at read
      · cases read
      · rename_i u behind stepped
        obtain ⟨rfl, more, first⟩ :=
          h (stops_behindCommas (c := '}') (by decide) (members.map memberChars) rest) stepped
        have fuel : members.length
            < (memberChars m ++ (behindCommas (members.map memberChars) ++ '}' :: rest)).length := by
          simp only [List.length_append, List.length_cons]
          omega
        obtain ⟨walks, ended⟩ := more.walks_of_readMore fuel read
        exact ⟨.cons first walks, ended⟩
  · intro ⟨walks, ended⟩
    rw [ended]
    exact walks.walkMembers_chars rest

end LocalOn

/-! ## Faithful shapes and fields -/

/-- Reading a written value gives what taking the value gives. -/
def Shape.Faithful (shape : Shape α) (depth : Nat) : Prop :=
  ∀ ⦃v : Value⦄ ⦃a : α⦄ ⦃rest : List Char⦄, v.Floatless → v.depth ≤ depth → Stops rest →
    shape.take v = .ok a → shape.read depth (v.chars ++ rest) = .ok (a, rest)

/-- Reading a written value does to the state what taking the value does. -/
def RecordField.Faithful (f : RecordField σ) (depth : Nat) : Prop :=
  ∀ ⦃s t : σ⦄ ⦃v : Value⦄ ⦃rest : List Char⦄, v.Floatless → v.depth ≤ depth → Stops rest →
    f.take s v = .ok t → f.read depth s (v.chars ++ rest) = .ok (t, rest)

namespace Shape

variable {depth : Nat}

theorem string_faithful : string.Faithful depth := by
  intro v a rest _ _ _ taken
  cases v with
  | text s =>
    obtain rfl : s = a := by simpa [string, Value.string?] using taken
    rw [Value.chars, quoteChars_append]
    exact readText_written s _
  | _ => cases taken

theorem signed_faithful : signed.Faithful depth := by
  intro v a rest floatless _ stops taken
  cases v with
  | integer n =>
    have whole : readValue 0 ((Value.integer n).chars ++ rest) = .ok (.integer n, rest) :=
      readValue_chars floatless (Nat.le_refl 0) stops
    have taken : (Value.integer n).signed? = .ok a := taken
    obtain ⟨c, cs, written, space, apart⟩ := integer_chars_head n
    have list : c ≠ '[' := apart '[' (by decide) (by decide)
    have map : c ≠ '{' := apart '{' (by decide) (by decide)
    show readSigned ((Value.integer n).chars ++ rest) = .ok (a, rest)
    rw [written, List.cons_append] at whole ⊢
    rw [readSigned]
    simp only [dropSpace_of_mark space]
    simp [list, map, whole, taken, Except.map]
  | _ => cases taken

theorem object_faithful : object.Faithful depth := by
  intro v members rest floatless shallow stops taken
  cases v with
  | object ms =>
    obtain rfl : ms = members := by simpa [object, Value.object?] using taken
    rw [Value.depth] at shallow
    rw [Floatless] at floatless
    obtain ⟨depth, rfl⟩ : ∃ n, depth = n + 1 := ⟨depth - 1, by omega⟩
    rw [Value.chars, List.cons_append, List.append_assoc]
    refine readMembersWith_chars _ depth rest ms floatless ?_ (Nat.le_of_succ_le_succ shallow)
    simp only [List.length_append]
    omega
  | _ => cases taken

/-- A value other than `null` is read as the shape that may also be `null` wants it: its first
character tells it apart. -/
theorem readOptional_eq_map {read : Reader α} {v : Value} {rest : List Char}
    (floatless : v.Floatless) (present : v ≠ .null) :
    readOptional read (v.chars ++ rest) = (read (v.chars ++ rest)).map fun r => (some r.1, r.2) := by
  obtain ⟨c, cs, written, space, -, -, null⟩ := chars_head floatless
  have mark : c ≠ 'n' := fun e => present (null e)
  rw [written, List.cons_append, readOptional]
  simp only [dropSpace_of_mark space]
  split
  · rename_i same
    exact absurd (List.cons.inj same).1 mark
  · rfl

theorem readOptional_chars {read : Reader α} {v : Value} {a : α} {rest : List Char}
    (floatless : v.Floatless) (present : v ≠ .null) (h : read (v.chars ++ rest) = .ok (a, rest)) :
    readOptional read (v.chars ++ rest) = .ok (some a, rest) := by
  rw [readOptional_eq_map floatless present, h]
  rfl

theorem optional?_eq_ok {take : Value → Except Fault α} {v : Value} {o : Option α}
    (present : v ≠ .null) (h : v.optional? take = .ok o) : ∃ a, take v = .ok a ∧ o = some a := by
  cases v with
  | null => exact absurd rfl present
  | _ =>
    simp only [Value.optional?] at h
    cases found : take _ with
    | error e =>
      rw [found] at h
      cases h
    | ok a =>
      rw [found] at h
      cases h
      exact ⟨a, rfl, rfl⟩

theorem optional_faithful {shape : Shape α} (h : shape.Faithful depth) :
    (optional shape).Faithful depth := by
  intro v o rest floatless shallow stops taken
  by_cases isNull : v = .null
  · subst isNull
    cases taken
    rfl
  · obtain ⟨a, found, rfl⟩ := optional?_eq_ok isNull taken
    exact readOptional_chars floatless isNull (h floatless shallow stops found)

end Shape

theorem RecordField.ofShape_faithful {depth : Nat} {name : String} {shape : Shape α}
    {get : σ → Option α} {set : σ → α → σ} {mayBeMissing : Bool} (h : shape.Faithful depth) :
    (ofShape name shape get set mayBeMissing).Faithful depth := by
  intro s t v rest floatless shallow stops taken
  simp only [ofShape] at taken ⊢
  cases found : shape.take v with
  | error e =>
    rw [found] at taken
    cases taken
  | ok a =>
    rw [found] at taken
    cases taken
    rw [h floatless shallow stops found]
    rfl

theorem RecordField.take_ofShape {name : String} {shape : Shape α} {get : σ → Option α}
    {set : σ → α → σ} {mayBeMissing : Bool} {s : σ} {v : Value} {a : α}
    (h : shape.take v = .ok a) :
    (ofShape name shape get set mayBeMissing).take s v = .ok (set s a) := by
  simp only [ofShape, h, Except.map]

/-! ## Records -/

theorem takeFields_append {fields : List (RecordField σ)} {s t u : σ}
    {members others : List (String × Value)} (h : takeFields fields s members = .ok t)
    (h' : takeFields fields t others = .ok u) :
    takeFields fields s (members ++ others) = .ok u := by
  fun_induction takeFields fields s members with
  | case1 s =>
    cases h
    exact h'
  | case2 | case3 => cases h
  | case4 s key v rest f known fresh t' taken ih =>
    simp only [List.cons_append, takeFields, known, fresh, taken]
    exact ih h
  | case5 s key v rest unknown ih =>
    simp only [List.cons_append, takeFields, unknown]
    exact ih h

theorem takeFields_singleton {fields : List (RecordField σ)} {f : RecordField σ} {s t : σ}
    {key : String} {v : Value} (known : fields.find? (·.name == key) = some f)
    (fresh : f.isSet s = false) (taken : f.take s v = .ok t) :
    takeFields fields s [(key, v)] = .ok t := by
  simp only [takeFields, known, fresh, taken, Bool.false_eq_true, if_false]

theorem readField_known {fields : List (RecordField σ)} {f : RecordField σ} {depth : Nat} {s t : σ}
    {key : String} {cs rest : List Char} (known : fields.find? (·.name == key) = some f)
    (fresh : f.isSet s = false) (h : f.read depth s cs = .ok (t, rest)) :
    readField fields depth key s (':' :: cs) = .ok (t, rest) := by
  simp only [readField, known, fresh, readColon_of_colon, h, Bool.false_eq_true, if_false]

/-- Text walks as members are taken: a known field reads what it takes, and any other member is
passed over. -/
theorem Walks.of_takeFields {fields : List (RecordField σ)} {depth : Nat}
    (faithful : ∀ f ∈ fields, f.Faithful depth) {s t : σ} {members : List (String × Value)}
    (floatless : FloatlessMembers members) (shallow : depthMembers members ≤ depth)
    (taken : takeFields fields s members = .ok t) :
    Walks (readField fields depth) s members t := by
  fun_induction takeFields fields s members with
  | case1 s =>
    cases taken
    exact .nil _
  | case2 | case3 => cases taken
  | case4 s key v rest f known fresh t' here ih =>
    rw [FloatlessMembers] at floatless
    rw [depthMembers] at shallow
    refine .cons (t := t') (fun after stops => ?_) (ih floatless.2 (by omega) taken)
    have read := faithful f (List.mem_of_find?_eq_some known) floatless.1
      (Nat.le_trans (Nat.le_max_left ..) shallow) stops here
    exact readField_known known (Bool.eq_false_iff.2 fresh) read
  | case5 s key v rest unknown ih =>
    -- no field has the key: the reader passes over the value, and the taker over the member
    rw [FloatlessMembers] at floatless
    rw [depthMembers] at shallow
    refine .cons (t := s) (fun after stops => ?_) (ih floatless.2 (by omega) taken)
    simp only [readField, unknown, readColon_of_colon, skipValue_chars floatless.1 stops]
    rfl

/-- A record is read back from a written object. -/
theorem readRecord_chars {name : String} {fields : List (RecordField σ)} {depth : Nat} {s t : σ}
    {members : List (String × Value)} (h : Walks (readField fields depth) s members t)
    (rest : List Char) :
    readRecord name fields s (depth + 1) ((Value.object members).chars ++ rest)
      = .ok (t, rest) := by
  rw [Value.chars, List.cons_append, List.append_assoc]
  exact h.walkMembers_chars rest

/-- A written value that is read up to its end is read as a whole text. -/
theorem readWhole_write {read : Reader α} {v : Value} {a : α}
    (h : read (v.chars ++ []) = .ok (a, [])) : readWhole read v.write = .ok a := by
  rw [List.append_nil] at h
  simp only [readWhole, Value.write, String.toList_ofList, h]
  rfl

end HubPublisher.Json
