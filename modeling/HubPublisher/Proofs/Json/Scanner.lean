import HubPublisher.Json.Scanner

/-!
The words of written JSON text are read back: quoted texts, literals and whole numbers.

A quoted text is written character by character, and each character is read back, or passed over,
as it was written (`readChars_escapeChar`, `skipChars_escapeChar`). A whole number ends where its
digits end, so it needs that what follows does not go on with it (`Stops`); a comma, a closing mark
and the end of the text never do.
-/
namespace HubPublisher.Json

/-! ## What follows a value -/

/-- Whether a number could go on with a character. -/
def continuesNumber (c : Char) : Bool := c.isDigit || c == '.' || c == 'e' || c == 'E'

/-- What follows does not go on with a number. -/
def Stops (rest : List Char) : Prop := ∀ c ∈ rest.head?, continuesNumber c = false

theorem stops_nil : Stops [] := by simp [Stops]

theorem stops_cons {c : Char} (h : continuesNumber c = false) (rest : List Char) :
    Stops (c :: rest) := by
  simpa [Stops] using h

theorem Stops.head {c : Char} {rest : List Char} (h : Stops (c :: rest)) :
    c.isDigit = false ∧ c ≠ '.' ∧ c ≠ 'e' ∧ c ≠ 'E' := by
  have hc : continuesNumber c = false := h c rfl
  simpa only [continuesNumber, Bool.or_eq_false_iff, beq_eq_false_iff_ne, and_assoc] using hc

/-! ## White space -/

theorem dropSpace_of_mark {c : Char} (h : isSpace c = false) (rest : List Char) :
    (c :: rest).dropWhile isSpace = c :: rest :=
  List.dropWhile_cons_of_neg (ne_true_of_eq_false h)

/-! ## Quoted texts -/

theorem escapeChar_of_control {c : Char} (h : c.toNat < 32) (b : c ≠ Char.ofNat 8)
    (t : c ≠ '\t') (n : c ≠ '\n') (f : c ≠ Char.ofNat 12) (r : c ≠ '\r') :
    escapeChar c = ['\\', 'u', '0', '0', Text.Hex.lower (c.toNat / 16),
      Text.Hex.lower (c.toNat % 16)] := by
  have quote : c ≠ '"' := by rintro rfl; exact absurd h (by decide)
  have backslash : c ≠ '\\' := by rintro rfl; exact absurd h (by decide)
  have high : c.toNat / 16 < 10 := by omega
  simp only [escapeChar, if_neg quote, if_neg backslash, if_neg n, if_neg r, if_neg t, if_neg b,
    if_neg f, if_pos h, Text.Hex.lower, if_pos high]

theorem escapeChar_of_plain {c : Char} (h : 32 ≤ c.toNat) (quote : c ≠ '"') (backslash : c ≠ '\\') :
    escapeChar c = [c] := by
  have other : ∀ d : Char, d.toNat < 32 → c ≠ d := by
    rintro d hd rfl
    exact absurd hd (Nat.not_lt.2 h)
  simp only [escapeChar, if_neg quote, if_neg backslash, if_neg (other '\n' (by decide)),
    if_neg (other '\r' (by decide)), if_neg (other '\t' (by decide)),
    if_neg (other (Char.ofNat 8) (by decide)), if_neg (other (Char.ofNat 12) (by decide)),
    if_neg (Nat.not_lt.2 h)]

/-- The digits of a control character name its number. -/
theorem value?_control {n : Nat} (h : n < 32) :
    Text.Hex.value? ['0', '0', Text.Hex.lower (n / 16), Text.Hex.lower (n % 16)] = some n := by
  have high := Text.Hex.digit?_lower (n := n / 16) (by omega)
  have low := Text.Hex.digit?_lower (n := n % 16) (by omega)
  have zero : Text.Hex.digit? '0' = some 0 := by decide
  simp only [Text.Hex.value?, List.foldl_cons, List.foldl_nil, Option.bind_some, zero, high, low,
    Option.map_some]
  congr 1
  omega

/-- The short escapes, with what they stand for. -/
def shortEscapes : List (Char × Char) :=
  [('"', '"'), ('\\', '\\'), ('\n', 'n'), ('\r', 'r'), ('\t', 't'), (Char.ofNat 8, 'b'),
    (Char.ofNat 12, 'f')]

/-- A character is written by a short escape, by its number, or as itself. -/
theorem escapeChar_cases (c : Char) :
    (∃ e, escapeChar c = ['\\', e] ∧ e ≠ 'u' ∧ shortEscape? e = some c) ∨
    (c.toNat < 32 ∧ escapeChar c = ['\\', 'u', '0', '0', Text.Hex.lower (c.toNat / 16),
      Text.Hex.lower (c.toNat % 16)]) ∨
    (32 ≤ c.toNat ∧ c ≠ '"' ∧ c ≠ '\\' ∧ escapeChar c = [c]) := by
  by_cases short : c ∈ shortEscapes.map (·.1)
  · have all : ∀ p ∈ shortEscapes,
        escapeChar p.1 = ['\\', p.2] ∧ p.2 ≠ 'u' ∧ shortEscape? p.2 = some p.1 := by decide
    obtain ⟨p, hp, rfl⟩ := List.mem_map.1 short
    exact .inl ⟨p.2, all p hp⟩
  · simp only [shortEscapes, List.map_cons, List.map_nil, List.mem_cons, List.not_mem_nil,
      or_false, not_or] at short
    obtain ⟨quote, backslash, n, r, t, b, f⟩ := short
    rcases Nat.lt_or_ge c.toNat 32 with h | h
    · exact .inr (.inl ⟨h, escapeChar_of_control h b t n f r⟩)
    · exact .inr (.inr ⟨h, quote, backslash, escapeChar_of_plain h quote backslash⟩)

/-- A control character is no half of a surrogate pair. -/
theorem no_surrogate {n : Nat} (h : n < 32) :
    isLowSurrogate n = false ∧ isHighSurrogate n = false := by
  simp only [isLowSurrogate, isHighSurrogate, Bool.and_eq_false_iff, decide_eq_false_iff_not]
  omega

/-- A written character is read back. -/
theorem readChars_escapeChar (c : Char) (rest : List Char) :
    readChars (escapeChar c ++ rest) = prepend c (readChars rest) := by
  rcases escapeChar_cases c with ⟨e, written, not_u, short⟩ | ⟨control, written⟩ |
      ⟨plain, quote, backslash, written⟩
  · rw [written, readChars.eq_def]
    simp [not_u, short]
  · obtain ⟨low, high⟩ := no_surrogate control
    rw [written, readChars.eq_def]
    simp [value?_control control, low, high, Char.ofNat_toNat]
  · rw [written, readChars.eq_def]
    simp [quote, backslash, Nat.not_lt.2 plain]

/-- A written character is passed over. -/
theorem skipChars_escapeChar (c : Char) (rest : List Char) :
    skipChars (escapeChar c ++ rest) = skipChars rest := by
  rcases escapeChar_cases c with ⟨e, written, not_u, short⟩ | ⟨control, written⟩ |
      ⟨plain, quote, backslash, written⟩
  · rw [written, skipChars.eq_def]
    simp [not_u, short]
  · rw [written, skipChars.eq_def]
    simp [value?_control control]
  · rw [written, skipChars.eq_def]
    simp [quote, backslash, Nat.not_lt.2 plain]

/-- A written text is read back up to its closing mark. -/
theorem readChars_written (cs rest : List Char) :
    readChars (cs.flatMap escapeChar ++ '"' :: rest) = .ok (cs, rest) := by
  induction cs with
  | nil =>
    rw [List.flatMap_nil, List.nil_append, readChars.eq_def]
    rfl
  | cons c cs ih =>
    rw [List.flatMap_cons, List.append_assoc, readChars_escapeChar, ih]
    rfl

theorem skipChars_written (cs rest : List Char) :
    skipChars (cs.flatMap escapeChar ++ '"' :: rest) = .ok rest := by
  induction cs with
  | nil =>
    rw [List.flatMap_nil, List.nil_append, skipChars.eq_def]
    rfl
  | cons c cs ih => rw [List.flatMap_cons, List.append_assoc, skipChars_escapeChar, ih]

theorem quoteChars_append (cs rest : List Char) :
    quoteChars cs ++ rest = '"' :: (cs.flatMap escapeChar ++ '"' :: rest) := by
  simp [quoteChars]

theorem readText_written (s : String) (rest : List Char) :
    readText (s.toList.flatMap escapeChar ++ '"' :: rest) = .ok (s, rest) := by
  rw [readText, readChars_written]
  exact congrArg (fun t => Except.ok (t, rest)) String.ofList_toList

/-! ## Whole numbers -/

/-- A digit is none of the marks. -/
theorem ne_of_isDigit {d c : Char} (h : d.isDigit = true) (hc : c.isDigit = false) : d ≠ c := by
  rintro rfl
  rw [h] at hc
  cases hc

theorem isSpace_of_isDigit {d : Char} (h : d.isDigit = true) : isSpace d = false := by
  have ne : ∀ c, c.isDigit = false → (d == c) = false := fun c hc => by
    simpa using ne_of_isDigit h hc
  simp only [isSpace, ne ' ' (by decide), ne '\n' (by decide), ne '\t' (by decide),
    ne '\r' (by decide), Bool.or_self]

/-- No number but zero is written with a zero in front. -/
theorem head_digits {n : Nat} (h : n ≠ 0) : (Nat.toDigits 10 n).head? ≠ some '0' := by
  induction n using Nat.strongRecOn with
  | _ n ih =>
    rw [Nat.toDigits_eq_if (by decide)]
    split
    · rename_i small
      have all : ∀ m ∈ List.range 10, m ≠ 0 → [m.digitChar].head? ≠ some '0' := by decide
      exact all n (List.mem_range.2 small) h
    · have front := ih (n / 10) (by omega) (by omega)
      obtain ⟨d, ds, hd⟩ := List.exists_cons_of_ne_nil (Nat.toDigits_ne_nil (n := n / 10) (b := 10))
      rw [hd] at front ⊢
      exact front

/-- Further digits never make a number smaller. -/
theorem le_ofDigitChars (ds : List Char) (n : Nat) : n ≤ Nat.ofDigitChars 10 ds n := by
  have positive : 0 < 10 ^ ds.length := Nat.pow_pos (by decide)
  have scaled : n ≤ 10 ^ ds.length * n := Nat.le_mul_of_pos_left n positive
  rw [Nat.ofDigitChars_eq_ofDigitChars_zero]
  omega

/-- Digits that sixty-four bits can hold are taken whole. -/
theorem absorb_digits (ds : List Char) (significand : Nat)
    (h : Nat.ofDigitChars 10 ds significand < 0x10000000000000000) :
    absorb significand ds = (Nat.ofDigitChars 10 ds significand, 0) := by
  induction ds generalizing significand with
  | nil => simp [absorb]
  | cons d ds ih =>
    have next : Nat.ofDigitChars 10 (d :: ds) significand
        = Nat.ofDigitChars 10 ds (significand * 10 + digitValue d) := by
      rw [Nat.ofDigitChars_cons, Nat.mul_comm]
      rfl
    rw [next] at h ⊢
    have small := Nat.lt_of_le_of_lt (le_ofDigitChars ds _) h
    rw [absorb]
    simp only [if_pos small, ih _ h]

/-- Digits end where the number ends. -/
theorem span_digits (n : Nat) {rest : List Char} (stops : Stops rest) :
    (Nat.toDigits 10 n ++ rest).takeWhile Char.isDigit = Nat.toDigits 10 n ∧
      (Nat.toDigits 10 n ++ rest).dropWhile Char.isDigit = rest := by
  have digits : ∀ d ∈ Nat.toDigits 10 n, d.isDigit = true := fun _ there =>
    Nat.isDigit_of_mem_toDigits (by decide) (by decide) there
  have front : rest.takeWhile Char.isDigit = [] ∧ rest.dropWhile Char.isDigit = rest := by
    cases rest with
    | nil => exact ⟨rfl, rfl⟩
    | cons c rest =>
      simp [stops.head.1]
  rw [List.takeWhile_append_of_pos digits, List.dropWhile_append_of_pos digits, front.1, front.2,
    List.append_nil]
  exact ⟨rfl, rfl⟩

/-- A number is written with a digit at its start. -/
theorem exists_toDigits (n : Nat) : ∃ d ds, Nat.toDigits 10 n = d :: ds ∧ d.isDigit = true := by
  obtain ⟨d, ds, written⟩ := List.exists_cons_of_ne_nil (Nat.toDigits_ne_nil (n := n) (b := 10))
  have there : d ∈ Nat.toDigits 10 n := by simp [written]
  exact ⟨d, ds, written, Nat.isDigit_of_mem_toDigits (by decide) (by decide) there⟩

/-- There are digits, and more than one only if the first is not zero. -/
theorem digits_form (n : Nat) :
    Nat.toDigits 10 n ≠ [] ∧ ∀ d ds, Nat.toDigits 10 n ≠ '0' :: d :: ds := by
  refine ⟨Nat.toDigits_ne_nil, fun d ds written => ?_⟩
  by_cases zero : n = 0
  · rw [zero, Nat.toDigits_zero] at written
    cases written
  · exact head_digits zero (by rw [written]; rfl)

/-- The digits of a number of sixty-four bits are read as that number. -/
theorem readNumber_digits {n : Nat} (h : n < 0x10000000000000000) (negative : Bool)
    {rest : List Char} (stops : Stops rest) :
    readNumber negative (Nat.toDigits 10 n ++ rest) = (wholeOf negative n).map (·, rest) := by
  obtain ⟨taken, left⟩ := span_digits n stops
  obtain ⟨some_digit, no_zero⟩ := digits_form n
  have value : absorb 0 (Nat.toDigits 10 n) = (n, 0) := by
    have hn : Nat.ofDigitChars 10 (Nat.toDigits 10 n) 0 = n := Nat.ofDigitChars_ten_toDigits
    rw [absorb_digits _ 0 (by rwa [hn]), hn]
  simp only [readNumber, taken, left, value]
  -- the form of the digits leaves the last alternative; what follows decides it
  split
  · exact absurd rfl stops.head.2.1
  · exact absurd rfl stops.head.2.2.1
  · exact absurd rfl stops.head.2.2.2
  · rfl

/-- Digits are passed over. -/
theorem skipNumber_digits (n : Nat) {rest : List Char} (stops : Stops rest) :
    skipNumber (Nat.toDigits 10 n ++ rest) = .ok rest := by
  obtain ⟨taken, left⟩ := span_digits n stops
  obtain ⟨some_digit, no_zero⟩ := digits_form n
  simp only [skipNumber, taken, left]
  -- the form of the digits leaves the last alternative; what follows decides it
  split
  · exact absurd rfl stops.head.2.1
  · split
    · exact absurd rfl stops.head.2.2.1
    · exact absurd rfl stops.head.2.2.2
    · rfl

theorem integer_chars (n : Integer) :
    (Value.integer n).chars = if 0 ≤ n.val then Nat.toDigits 10 n.val.toNat
      else '-' :: Nat.toDigits 10 (-n.val).toNat := by
  rw [Value.chars, Int.toString_eq_repr, Int.repr_eq_if]
  split
  · rw [Nat.toList_repr]
  · simp [Nat.toList_repr]

theorem ofInt?_val (n : Integer) : Integer.ofInt? n.val = some n := by
  rw [Integer.ofInt?, dif_pos ⟨n.lower, n.upper⟩]

theorem wholeOf_of_nonneg {n : Integer} (h : 0 ≤ n.val) :
    wholeOf false n.val.toNat = .ok (.integer n) := by
  have value : ((n.val.toNat : Nat) : Int) = n.val := Int.toNat_of_nonneg h
  rw [wholeOf, value, ofInt?_val]
  rfl

theorem wholeOf_of_neg {n : Integer} (h : n.val < 0) :
    wholeOf true (-n.val).toNat = .ok (.integer n) := by
  have value : -((-n.val).toNat : Int) = n.val := by omega
  have positive : (-n.val).toNat ≠ 0 := by omega
  rw [wholeOf, value, ofInt?_val, if_pos rfl, if_neg positive]

end HubPublisher.Json
