import HubPublisher.Json.Reader
import HubPublisher.Proofs.Json.Scanner

/-!
Written values are read back, and passed over, up to where they end.

The induction is on the value, with one case for each kind. A container is walked item by item:
what stands behind an item is a comma or the closing mark, at which a number stops, so each item is
read apart from the rest. Every container takes one of the depth that is allowed, and the fuel of
the readers, two for each character, lasts for it. Floating-point numbers are left out: what is
written for one is a decimal near it, and whether that reads back is a matter of rounding.
-/
namespace HubPublisher.Json

namespace Value

/-! ## Values without floating-point numbers -/

mutual
/-- Whether no number in a value is a floating-point number. -/
def Floatless : Value → Prop
  | float _ => False
  | array items => FloatlessItems items
  | object members => FloatlessMembers members
  | _ => True
def FloatlessItems : List Value → Prop
  | [] => True
  | v :: rest => Floatless v ∧ FloatlessItems rest
def FloatlessMembers : List (String × Value) → Prop
  | [] => True
  | (_, v) :: rest => Floatless v ∧ FloatlessMembers rest
end

theorem floatlessMembers_iff {members : List (String × Value)} :
    FloatlessMembers members ↔ ∀ m ∈ members, m.2.Floatless := by
  induction members with
  | nil => simp [FloatlessMembers]
  | cons m rest ih => simp [FloatlessMembers, ih]

theorem floatlessMembers_append {a b : List (String × Value)} :
    FloatlessMembers (a ++ b) ↔ FloatlessMembers a ∧ FloatlessMembers b := by
  simp only [floatlessMembers_iff, List.forall_mem_append]

/-! ## Depth -/

theorem depth_le_depthMembers {members : List (String × Value)} {m : String × Value}
    (h : m ∈ members) : m.2.depth ≤ depthMembers members := by
  induction members with
  | nil => cases h
  | cons e rest ih =>
    rw [depthMembers]
    rcases List.mem_cons.1 h with rfl | h
    · exact Nat.le_max_left ..
    · exact Nat.le_trans (ih h) (Nat.le_max_right ..)

theorem depthMembers_append (a b : List (String × Value)) :
    depthMembers (a ++ b) = max (depthMembers a) (depthMembers b) := by
  induction a with
  | nil => simp [depthMembers]
  | cons m rest ih => simp [depthMembers, ih, Nat.max_assoc]

/-! ## The text of a container -/

/-- The characters of a member. -/
def memberChars (m : String × Value) : List Char := quoteChars m.1.toList ++ ':' :: m.2.chars

/-- Texts with a comma before each. -/
def behindCommas (texts : List (List Char)) : List Char := texts.flatMap (',' :: ·)

theorem charsItems_cons (v : Value) (rest : List Value) :
    charsItems (v :: rest) = v.chars ++ behindCommas (rest.map chars) := by
  induction rest generalizing v with
  | nil => simp [charsItems, behindCommas]
  | cons w rest ih => simp [charsItems, ih, behindCommas]

theorem charsMembers_cons (m : String × Value) (rest : List (String × Value)) :
    charsMembers (m :: rest) = memberChars m ++ behindCommas (rest.map memberChars) := by
  induction rest generalizing m with
  | nil => simp [charsMembers, behindCommas, memberChars]
  | cons w rest ih => simp [charsMembers, ih, behindCommas, memberChars]

/-- Whatever stands behind an item is a comma or the closing mark. -/
theorem stops_behindCommas {c : Char} (h : continuesNumber c = false) (texts : List (List Char))
    (rest : List Char) : Stops (behindCommas texts ++ c :: rest) := by
  cases texts with
  | nil => exact stops_cons h rest
  | cons t texts => exact stops_cons (by decide) _

/-- The first character of a whole number is a digit or a minus. -/
theorem integer_chars_head (n : Integer) :
    ∃ c cs, (Value.integer n).chars = c :: cs ∧ isSpace c = false ∧
      ∀ d, d.isDigit = false → d ≠ '-' → c ≠ d := by
  rw [integer_chars]
  split
  · obtain ⟨c, cs, written, digit⟩ := exists_toDigits n.val.toNat
    exact ⟨c, cs, written, isSpace_of_isDigit digit, fun d other _ => ne_of_isDigit digit other⟩
  · exact ⟨_, _, rfl, by decide, fun d _ minus => Ne.symm minus⟩

/-- The first character of a value is none that a reader of arrays passes over or stops at, and it
tells `null` from the rest. -/
theorem chars_head {v : Value} (h : v.Floatless) :
    ∃ c cs, v.chars = c :: cs ∧ isSpace c = false ∧ c ≠ ']' ∧ c ≠ ',' ∧ (c = 'n' → v = null) := by
  cases v with
  | null => exact ⟨_, _, rfl, by decide, by decide, by decide, fun _ => rfl⟩
  | boolean b => cases b <;> exact ⟨_, _, rfl, by decide, by decide, by decide, by simp⟩
  | integer n =>
    obtain ⟨c, cs, written, space, apart⟩ := integer_chars_head n
    exact ⟨c, cs, written, space, apart ']' (by decide) (by decide),
      apart ',' (by decide) (by decide), fun e => absurd e (apart 'n' (by decide) (by decide))⟩
  | float x => exact absurd h (by simp [Floatless])
  | text s => exact ⟨_, _, rfl, by decide, by decide, by decide, by simp⟩
  | array items => exact ⟨_, _, rfl, by decide, by decide, by decide, by simp⟩
  | object members => exact ⟨_, _, rfl, by decide, by decide, by decide, by simp⟩

/-- Only a text, an array and an object start with the mark they start with. -/
theorem chars_head_mark {v : Value} (h : v.Floatless) {c : Char} {cs : List Char}
    (written : v.chars = c :: cs) :
    (c = '"' → ∃ s, v = text s) ∧ (c = '[' → ∃ items, v = array items) ∧
      (c = '{' → ∃ members, v = object members) := by
  cases v with
  | null =>
    cases written
    exact ⟨by simp, by simp, by simp⟩
  | boolean b => cases b <;> cases written <;> exact ⟨by simp, by simp, by simp⟩
  | integer n =>
    obtain ⟨d, ds, same, -, apart⟩ := integer_chars_head n
    rw [same] at written
    cases written
    exact ⟨fun e => absurd e (apart '"' (by decide) (by decide)),
      fun e => absurd e (apart '[' (by decide) (by decide)),
      fun e => absurd e (apart '{' (by decide) (by decide))⟩
  | float x => exact absurd h (by simp [Floatless])
  | text s =>
    cases written
    exact ⟨fun _ => ⟨s, rfl⟩, by simp, by simp⟩
  | array items =>
    cases written
    exact ⟨by simp, fun _ => ⟨items, rfl⟩, by simp⟩
  | object members =>
    cases written
    exact ⟨by simp, by simp, fun _ => ⟨members, rfl⟩⟩

theorem length_chars_pos {v : Value} (h : v.Floatless) : 0 < v.chars.length := by
  obtain ⟨c, cs, written, -⟩ := chars_head h
  rw [written]
  exact Nat.succ_pos _

end Value

open Value

/-! ## Where items and members start -/

theorem nextItem_of_first {c : Char} (space : isSpace c = false) (close : c ≠ ']') (comma : c ≠ ',')
    (cs : List Char) : nextItem true (c :: cs) = .ok (some (c :: cs)) := by
  rw [nextItem, dropSpace_of_mark space]
  simp [close, comma]

theorem nextItem_of_comma {c : Char} (space : isSpace c = false) (close : c ≠ ']')
    (cs : List Char) : nextItem false (',' :: c :: cs) = .ok (some (c :: cs)) := by
  rw [nextItem, dropSpace_of_mark (by decide)]
  simp only [dropSpace_of_mark space, Bool.false_eq_true, if_false]
  simp [close]

theorem readKey_written (key : String) (cs : List Char) :
    readKey (key.toList.flatMap escapeChar ++ '"' :: cs) = .ok (some key, cs) := by
  rw [readKey, readText_written]
  rfl

/-- A member is a key between marks, a colon and a value. -/
theorem memberChars_append (m : String × Value) (cs : List Char) :
    memberChars m ++ cs
      = '"' :: (m.1.toList.flatMap escapeChar ++ '"' :: ':' :: (m.2.chars ++ cs)) := by
  simp [memberChars, quoteChars]

theorem nextKey_of_first (m : String × Value) (cs : List Char) :
    nextKey true (memberChars m ++ cs) = .ok (some m.1, ':' :: (m.2.chars ++ cs)) := by
  rw [memberChars_append]
  exact readKey_written m.1 _

theorem nextKey_of_comma (m : String × Value) (cs : List Char) :
    nextKey false (',' :: (memberChars m ++ cs)) = .ok (some m.1, ':' :: (m.2.chars ++ cs)) := by
  rw [memberChars_append]
  exact readKey_written m.1 _

/-- A value in the wrong place is never read. -/
theorem readMismatch_ne_ok {α : Type} {wanted : String} {cs : List Char} {r : α × List Char} :
    readMismatch wanted cs ≠ .ok r := by
  unfold readMismatch
  split
  · exact nofun
  · exact nofun
  · split
    · exact nofun
    · exact nofun

theorem readColon_of_colon (cs : List Char) : readColon (':' :: cs) = .ok cs := rfl

/-! ## Values that are kept -/

theorem readValueWith_of_digit {d : Char} (h : d.isDigit = true) (fuel depth : Nat)
    (cs : List Char) : readValueWith (fuel + 1) depth (d :: cs) = readNumber false (d :: cs) := by
  have ne : ∀ c, c.isDigit = false → d ≠ c := fun c hc => ne_of_isDigit h hc
  simp only [readValueWith, dropSpace_of_mark (isSpace_of_isDigit h)]
  simp [ne 'n' (by decide), ne 't' (by decide), ne 'f' (by decide), ne '-' (by decide),
    ne '"' (by decide), ne '[' (by decide), ne '{' (by decide), h]

theorem readValueWith_integer (fuel depth : Nat) (n : Integer) {rest : List Char}
    (stops : Stops rest) :
    readValueWith (fuel + 1) depth ((Value.integer n).chars ++ rest) = .ok (.integer n, rest) := by
  have lower := n.lower
  have upper := n.upper
  rw [integer_chars]
  split
  · rename_i sign
    obtain ⟨d, ds, written, digit⟩ := exists_toDigits n.val.toNat
    have number := readNumber_digits (n := n.val.toNat) (by omega) false stops
    rw [written, List.cons_append] at number ⊢
    rw [readValueWith_of_digit digit, number, wholeOf_of_nonneg sign]
    rfl
  · rename_i sign
    have number := readNumber_digits (n := (-n.val).toNat) (by omega) true stops
    show readNumber true (Nat.toDigits 10 (-n.val).toNat ++ rest) = _
    rw [number, wholeOf_of_neg (Int.not_le.1 sign)]
    rfl

theorem readValueWith_text (fuel depth : Nat) (s : String) (rest : List Char) :
    readValueWith (fuel + 1) depth ((Value.text s).chars ++ rest) = .ok (.text s, rest) := by
  rw [Value.chars, quoteChars_append]
  show (readText _).map _ = _
  rw [readText_written]
  rfl

mutual
/-- A written value is read back, with the characters after it. -/
theorem readValueWith_chars (fuel depth : Nat) {rest : List Char} (v : Value) (h : v.Floatless)
    (hf : 2 * v.chars.length ≤ fuel) (hd : v.depth ≤ depth) (stops : Stops rest) :
    readValueWith fuel depth (v.chars ++ rest) = .ok (v, rest) := by
  have positive := length_chars_pos h
  obtain ⟨fuel, rfl⟩ : ∃ n, fuel = n + 1 := ⟨fuel - 1, by omega⟩
  cases v with
  | null => rfl
  | boolean b => cases b <;> rfl
  | integer n => exact readValueWith_integer fuel depth n stops
  | float x => exact absurd h (by simp [Floatless])
  | text s => exact readValueWith_text fuel depth s rest
  | array items =>
    rw [Value.depth] at hd
    rw [Floatless] at h
    obtain ⟨depth, rfl⟩ : ∃ n, depth = n + 1 := ⟨depth - 1, by omega⟩
    simp only [Value.chars, List.length_cons, List.length_append, List.length_nil] at hf
    have items_read := readItemsWith_chars fuel depth rest items h
      (by omega) (by omega)
    rw [Value.chars, List.cons_append, List.append_assoc]
    show (readItemsWith fuel depth true _).map _ = _
    rw [List.singleton_append, items_read]
    rfl
  | object members =>
    rw [Value.depth] at hd
    rw [Floatless] at h
    obtain ⟨depth, rfl⟩ : ∃ n, depth = n + 1 := ⟨depth - 1, by omega⟩
    simp only [Value.chars, List.length_cons, List.length_append, List.length_nil] at hf
    have members_read := readMembersWith_chars fuel depth rest members h (by omega) (by omega)
    rw [Value.chars, List.cons_append, List.append_assoc]
    show (readMembersWith fuel depth true _).map _ = _
    rw [List.singleton_append, members_read]
    rfl

/-- Written items are read back up to the closing bracket. -/
theorem readItemsWith_chars (fuel depth : Nat) (rest : List Char) (items : List Value)
    (h : FloatlessItems items)
    (hf : 2 * (charsItems items).length + 1 ≤ fuel) (hd : depthItems items ≤ depth) :
    readItemsWith fuel depth true (charsItems items ++ ']' :: rest) = .ok (items, rest) := by
  obtain ⟨fuel, rfl⟩ : ∃ n, fuel = n + 1 := ⟨fuel - 1, by omega⟩
  cases items with
  | nil => rfl
  | cons v items =>
    rw [FloatlessItems] at h
    rw [depthItems] at hd
    rw [charsItems_cons, List.length_append] at hf
    have positive := length_chars_pos h.1
    have first := readValueWith_chars fuel depth v h.1 (by omega) (by omega)
      (stops_behindCommas (c := ']') (by decide) (items.map chars) rest)
    have more := readMoreItems fuel depth rest items h.2 (by omega)
      (by omega)
    obtain ⟨c, cs, written, space, close, comma, -⟩ := chars_head h.1
    rw [written, List.cons_append] at first
    rw [charsItems_cons, List.append_assoc, written, List.cons_append]
    simp only [readItemsWith, nextItem_of_first space close comma, first, more]
    rfl

/-- Items behind commas are read back up to the closing bracket. -/
theorem readMoreItems (fuel depth : Nat) (rest : List Char) (items : List Value)
    (h : FloatlessItems items)
    (hf : 2 * (behindCommas (items.map chars)).length + 1 ≤ fuel) (hd : depthItems items ≤ depth) :
    readItemsWith fuel depth false (behindCommas (items.map chars) ++ ']' :: rest)
      = .ok (items, rest) := by
  obtain ⟨fuel, rfl⟩ : ∃ n, fuel = n + 1 := ⟨fuel - 1, by omega⟩
  cases items with
  | nil => rfl
  | cons v items =>
    rw [FloatlessItems] at h
    rw [depthItems] at hd
    simp only [behindCommas, List.map_cons, List.flatMap_cons, List.length_append,
      List.length_cons] at hf
    have first := readValueWith_chars fuel depth v h.1 (by omega) (by omega)
      (stops_behindCommas (c := ']') (by decide) (items.map chars) rest)
    have more := readMoreItems fuel depth rest items h.2
      (by simp only [behindCommas]; omega) (by omega)
    obtain ⟨c, cs, written, space, close, -⟩ := chars_head h.1
    rw [written, List.cons_append] at first
    have text : behindCommas ((v :: items).map chars) ++ ']' :: rest
        = ',' :: c :: (cs ++ (behindCommas (items.map chars) ++ ']' :: rest)) := by
      simp [behindCommas, written]
    rw [text]
    simp only [readItemsWith, nextItem_of_comma space close, first, more]
    rfl

/-- Written members are read back up to the closing brace. -/
theorem readMembersWith_chars (fuel depth : Nat) (rest : List Char)
    (members : List (String × Value)) (h : FloatlessMembers members)
    (hf : 2 * (charsMembers members).length + 1 ≤ fuel) (hd : depthMembers members ≤ depth) :
    readMembersWith fuel depth true (charsMembers members ++ '}' :: rest)
      = .ok (members, rest) := by
  obtain ⟨fuel, rfl⟩ : ∃ n, fuel = n + 1 := ⟨fuel - 1, by omega⟩
  cases members with
  | nil => rfl
  | cons m members =>
    obtain ⟨key, v⟩ := m
    rw [FloatlessMembers] at h
    rw [depthMembers] at hd
    have positive := length_chars_pos h.1
    simp only [charsMembers_cons, memberChars, List.length_append, List.length_cons] at hf
    have first := readValueWith_chars fuel depth v h.1 (by omega) (by omega)
      (stops_behindCommas (c := '}') (by decide) (members.map memberChars) rest)
    have more := readMoreMembers fuel depth rest members h.2
      (by omega) (by omega)
    rw [charsMembers_cons, List.append_assoc]
    simp only [readMembersWith, nextKey_of_first, readColon_of_colon, first, more]
    rfl

/-- Members behind commas are read back up to the closing brace. -/
theorem readMoreMembers (fuel depth : Nat) (rest : List Char)
    (members : List (String × Value)) (h : FloatlessMembers members)
    (hf : 2 * (behindCommas (members.map memberChars)).length + 1 ≤ fuel)
    (hd : depthMembers members ≤ depth) :
    readMembersWith fuel depth false (behindCommas (members.map memberChars) ++ '}' :: rest)
      = .ok (members, rest) := by
  obtain ⟨fuel, rfl⟩ : ∃ n, fuel = n + 1 := ⟨fuel - 1, by omega⟩
  cases members with
  | nil => rfl
  | cons m members =>
    obtain ⟨key, v⟩ := m
    rw [FloatlessMembers] at h
    rw [depthMembers] at hd
    simp only [behindCommas, List.map_cons, List.flatMap_cons, memberChars, List.length_append,
      List.length_cons] at hf
    have first := readValueWith_chars fuel depth v h.1 (by omega) (by omega)
      (stops_behindCommas (c := '}') (by decide) (members.map memberChars) rest)
    have more := readMoreMembers fuel depth rest members h.2
      (by simp only [behindCommas]; omega) (by omega)
    have text : behindCommas (((key, v) :: members).map memberChars) ++ '}' :: rest
        = ',' :: (memberChars (key, v)
          ++ (behindCommas (members.map memberChars) ++ '}' :: rest)) := by
      simp [behindCommas]
    rw [text]
    simp only [readMembersWith, nextKey_of_comma, readColon_of_colon, first, more]
    rfl
end

/-- A written value of the depth that is allowed is read back. -/
theorem readValue_chars {depth : Nat} {rest : List Char} {v : Value} (h : v.Floatless)
    (hd : v.depth ≤ depth) (stops : Stops rest) :
    readValue depth (v.chars ++ rest) = .ok (v, rest) := by
  refine readValueWith_chars _ depth v h ?_ hd stops
  rw [List.length_append]
  omega

/-! ## Values that are passed over -/

theorem skipValueWith_of_digit {d : Char} (h : d.isDigit = true) (fuel : Nat) (cs : List Char) :
    skipValueWith (fuel + 1) (d :: cs) = skipNumber (d :: cs) := by
  have ne : ∀ c, c.isDigit = false → d ≠ c := fun c hc => ne_of_isDigit h hc
  simp only [skipValueWith, dropSpace_of_mark (isSpace_of_isDigit h)]
  simp [ne 'n' (by decide), ne 't' (by decide), ne 'f' (by decide), ne '-' (by decide),
    ne '"' (by decide), ne '[' (by decide), ne '{' (by decide), h]

theorem skipValueWith_integer (fuel : Nat) (n : Integer) {rest : List Char} (stops : Stops rest) :
    skipValueWith (fuel + 1) ((Value.integer n).chars ++ rest) = .ok rest := by
  rw [integer_chars]
  split
  · obtain ⟨d, ds, written, digit⟩ := exists_toDigits n.val.toNat
    have number := skipNumber_digits n.val.toNat stops
    rw [written, List.cons_append] at number ⊢
    rw [skipValueWith_of_digit digit, number]
  · exact skipNumber_digits (-n.val).toNat stops

theorem skipValueWith_text (fuel : Nat) (s : String) (rest : List Char) :
    skipValueWith (fuel + 1) ((Value.text s).chars ++ rest) = .ok rest := by
  rw [Value.chars, quoteChars_append]
  exact skipChars_written _ _

/-- The key of a member and the colon behind it are passed over. -/
theorem skipChars_key (m : String × Value) (cs : List Char) :
    ∃ more, memberChars m ++ cs = '"' :: more ∧
      skipChars more = .ok (':' :: (m.2.chars ++ cs)) := by
  exact ⟨_, memberChars_append m cs, skipChars_written _ _⟩

mutual
/-- A written value is passed over up to the characters after it, however deep it nests. -/
theorem skipValueWith_chars (fuel : Nat) {rest : List Char} (v : Value) (h : v.Floatless)
    (hf : 2 * v.chars.length ≤ fuel) (stops : Stops rest) :
    skipValueWith fuel (v.chars ++ rest) = .ok rest := by
  have positive := length_chars_pos h
  obtain ⟨fuel, rfl⟩ : ∃ n, fuel = n + 1 := ⟨fuel - 1, by omega⟩
  cases v with
  | null => rfl
  | boolean b => cases b <;> rfl
  | integer n => exact skipValueWith_integer fuel n stops
  | float x => exact absurd h (by simp [Floatless])
  | text s => exact skipValueWith_text fuel s rest
  | array items =>
    rw [Floatless] at h
    simp only [Value.chars, List.length_cons, List.length_append, List.length_nil] at hf
    rw [Value.chars, List.cons_append, List.append_assoc, List.singleton_append]
    exact skipItemsWith_chars fuel rest items h (by omega)
  | object members =>
    rw [Floatless] at h
    simp only [Value.chars, List.length_cons, List.length_append, List.length_nil] at hf
    rw [Value.chars, List.cons_append, List.append_assoc, List.singleton_append]
    exact skipMembersWith_chars fuel rest members h (by omega)

/-- Written items are passed over up to the closing bracket. -/
theorem skipItemsWith_chars (fuel : Nat) (rest : List Char) (items : List Value)
    (h : FloatlessItems items) (hf : 2 * (charsItems items).length + 1 ≤ fuel) :
    skipItemsWith fuel true (charsItems items ++ ']' :: rest) = .ok rest := by
  obtain ⟨fuel, rfl⟩ : ∃ n, fuel = n + 1 := ⟨fuel - 1, by omega⟩
  cases items with
  | nil => rfl
  | cons v items =>
    rw [FloatlessItems] at h
    rw [charsItems_cons, List.length_append] at hf
    have positive := length_chars_pos h.1
    have first := skipValueWith_chars fuel v h.1 (by omega)
      (stops_behindCommas (c := ']') (by decide) (items.map chars) rest)
    have more := skipMoreItems fuel rest items h.2 (by omega)
    obtain ⟨c, cs, written, space, close, comma, -⟩ := chars_head h.1
    rw [written, List.cons_append] at first
    rw [charsItems_cons, List.append_assoc, written, List.cons_append]
    simp [skipItemsWith, dropSpace_of_mark space, first, more]

/-- Items behind commas are passed over up to the closing bracket. -/
theorem skipMoreItems (fuel : Nat) (rest : List Char) (items : List Value)
    (h : FloatlessItems items) (hf : 2 * (behindCommas (items.map chars)).length + 1 ≤ fuel) :
    skipItemsWith fuel false (behindCommas (items.map chars) ++ ']' :: rest) = .ok rest := by
  obtain ⟨fuel, rfl⟩ : ∃ n, fuel = n + 1 := ⟨fuel - 1, by omega⟩
  cases items with
  | nil => rfl
  | cons v items =>
    rw [FloatlessItems] at h
    simp only [behindCommas, List.map_cons, List.flatMap_cons, List.length_append,
      List.length_cons] at hf
    have first := skipValueWith_chars fuel v h.1 (by omega)
      (stops_behindCommas (c := ']') (by decide) (items.map chars) rest)
    have more := skipMoreItems fuel rest items h.2
      (by simp only [behindCommas]; omega)
    have text : behindCommas ((v :: items).map chars) ++ ']' :: rest
        = ',' :: (v.chars ++ (behindCommas (items.map chars) ++ ']' :: rest)) := by
      simp [behindCommas]
    rw [text]
    simp [skipItemsWith, dropSpace_of_mark (c := ',') (by decide), first, more]

/-- Written members are passed over up to the closing brace. -/
theorem skipMembersWith_chars (fuel : Nat) (rest : List Char) (members : List (String × Value))
    (h : FloatlessMembers members) (hf : 2 * (charsMembers members).length + 1 ≤ fuel) :
    skipMembersWith fuel true (charsMembers members ++ '}' :: rest) = .ok rest := by
  obtain ⟨fuel, rfl⟩ : ∃ n, fuel = n + 1 := ⟨fuel - 1, by omega⟩
  cases members with
  | nil => rfl
  | cons m members =>
    obtain ⟨key, v⟩ := m
    rw [FloatlessMembers] at h
    have positive := length_chars_pos h.1
    simp only [charsMembers_cons, memberChars, List.length_append, List.length_cons] at hf
    have first := skipValueWith_chars fuel v h.1 (by omega)
      (stops_behindCommas (c := '}') (by decide) (members.map memberChars) rest)
    have more := skipMoreMembers fuel rest members h.2 (by omega)
    obtain ⟨cs, written, skipped⟩ :=
      skipChars_key (key, v) (behindCommas (members.map memberChars) ++ '}' :: rest)
    rw [charsMembers_cons, List.append_assoc, written]
    simp [skipMembersWith, dropSpace_of_mark (c := '"') (by decide), skipped, readColon_of_colon,
      first, more]

/-- Members behind commas are passed over up to the closing brace. -/
theorem skipMoreMembers (fuel : Nat) (rest : List Char) (members : List (String × Value))
    (h : FloatlessMembers members)
    (hf : 2 * (behindCommas (members.map memberChars)).length + 1 ≤ fuel) :
    skipMembersWith fuel false (behindCommas (members.map memberChars) ++ '}' :: rest)
      = .ok rest := by
  obtain ⟨fuel, rfl⟩ : ∃ n, fuel = n + 1 := ⟨fuel - 1, by omega⟩
  cases members with
  | nil => rfl
  | cons m members =>
    obtain ⟨key, v⟩ := m
    rw [FloatlessMembers] at h
    simp only [behindCommas, List.map_cons, List.flatMap_cons, memberChars, List.length_append,
      List.length_cons] at hf
    have first := skipValueWith_chars fuel v h.1 (by omega)
      (stops_behindCommas (c := '}') (by decide) (members.map memberChars) rest)
    have more := skipMoreMembers fuel rest members h.2
      (by simp only [behindCommas]; omega)
    obtain ⟨cs, written, skipped⟩ :=
      skipChars_key (key, v) (behindCommas (members.map memberChars) ++ '}' :: rest)
    have text : behindCommas (((key, v) :: members).map memberChars) ++ '}' :: rest
        = ',' :: '"' :: cs := by
      rw [← written]
      simp [behindCommas]
    rw [text]
    simp [skipMembersWith, dropSpace_of_mark (c := ',') (by decide),
      dropSpace_of_mark (c := '"') (by decide), skipped, readColon_of_colon, first, more]
end

/-- A written value is passed over. -/
theorem skipValue_chars {rest : List Char} {v : Value} (h : v.Floatless) (stops : Stops rest) :
    skipValue (v.chars ++ rest) = .ok rest := by
  refine skipValueWith_chars _ v h ?_ stops
  rw [List.length_append]
  omega

end HubPublisher.Json
