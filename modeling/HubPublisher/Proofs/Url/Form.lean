import HubPublisher.Proofs.Text.Utf8
import HubPublisher.Url.Basic

/-!
Forms read back as the pairs they were written from.

A text of a form is written character by character, and each character is read back as its own
octets (`octets_encodeChar`), so reading undoes writing for a text (`decode_encode`) and, as no
written text has an equals sign or an ampersand, for a pair (`readPair_encodePair`). A part behind
an ampersand is read apart from what stands before it (`read_append`), whatever that is: so pairs
put behind a query are read behind the pairs of the query (`queryPairs_withPairs`). Parts with
ampersands between them are cut into these parts again (`splitBy_intercalate`), and pairs are
written as such parts (`write_eq_intercalate`).
-/
namespace HubPublisher.Text

theorem splitBy_cons_of_pos {p : Char → Bool} {c : Char} (h : p c = true) (cs : List Char) :
    splitBy p (c :: cs) = [] :: splitBy p cs := by
  simp [splitBy, h]

theorem splitBy_cons_of_neg {p : Char → Bool} {c : Char} (h : p c = false) {cs part : List Char}
    {parts : List (List Char)} (hcs : splitBy p cs = part :: parts) :
    splitBy p (c :: cs) = (c :: part) :: parts := by
  simp [splitBy, h, hcs]

/-- Texts with a separator between them are cut apart there. -/
theorem splitBy_append {p : Char → Bool} {sep : Char} (h : p sep = true) (a b : List Char) :
    splitBy p (a ++ sep :: b) = splitBy p a ++ splitBy p b := by
  induction a with
  | nil => simp [splitBy, h]
  | cons c a ih =>
    rw [List.cons_append]
    by_cases hc : p c = true
    · rw [splitBy_cons_of_pos hc, splitBy_cons_of_pos hc, ih, List.cons_append]
    · have hc : p c = false := by simpa using hc
      obtain ⟨part, parts, ha⟩ := List.exists_cons_of_ne_nil (splitBy_ne_nil p a)
      rw [ha, List.cons_append] at ih
      rw [splitBy_cons_of_neg hc ha, splitBy_cons_of_neg hc ih, List.cons_append]

/-- A text without a separator is one part. -/
theorem splitBy_of_none {p : Char → Bool} {cs : List Char} (h : ∀ c ∈ cs, p c = false) :
    splitBy p cs = [cs] := by
  induction cs with
  | nil => rfl
  | cons c cs ih =>
    have hcs := ih fun x hx => h x (List.mem_cons_of_mem _ hx)
    exact splitBy_cons_of_neg (h c List.mem_cons_self) hcs

/-- No part has a separator. -/
theorem none_of_mem_splitBy {p : Char → Bool} {cs part : List Char} (h : part ∈ splitBy p cs) :
    ∀ c ∈ part, p c = false := by
  induction cs generalizing part with
  | nil =>
    rw [splitBy, List.mem_singleton] at h
    exact fun c hc => absurd (h ▸ hc) List.not_mem_nil
  | cons x cs ih =>
    by_cases hx : p x = true
    · rw [splitBy_cons_of_pos hx, List.mem_cons] at h
      rcases h with rfl | h
      · exact fun c hc => absurd hc List.not_mem_nil
      · exact ih h
    · have hx : p x = false := by simpa using hx
      obtain ⟨first, rest, hcs⟩ := List.exists_cons_of_ne_nil (splitBy_ne_nil p cs)
      rw [splitBy_cons_of_neg hx hcs, List.mem_cons] at h
      rcases h with rfl | h
      · intro c hc
        rcases List.mem_cons.1 hc with rfl | hc
        · exact hx
        · exact ih (hcs ▸ List.mem_cons_self) c hc
      · exact ih (hcs ▸ List.mem_cons_of_mem first h)

/-- Parts without a separator are the parts of the text that has separators between them. -/
theorem splitBy_intercalate {p : Char → Bool} {sep : Char} (h : p sep = true)
    {parts : List (List Char)} (some : parts ≠ [])
    (plain : ∀ part ∈ parts, ∀ c ∈ part, p c = false) :
    splitBy p ([sep].intercalate parts) = parts := by
  induction parts with
  | nil => exact absurd rfl some
  | cons part rest ih =>
    have one : splitBy p part = [part] := splitBy_of_none (plain part List.mem_cons_self)
    cases rest with
    | nil => rw [List.intercalate_singleton, one]
    | cons next rest =>
      have others := ih (List.cons_ne_nil _ _) fun q hq => plain q (List.mem_cons_of_mem part hq)
      rw [List.intercalate_cons_cons, List.append_assoc, List.singleton_append, splitBy_append h,
        one, others, List.singleton_append]

/-- Where empty parts do not count, that is so also for no parts, whose text has an empty one. -/
theorem filter_splitBy_intercalate {p : Char → Bool} {sep : Char} (h : p sep = true)
    {counts : List Char → Bool} (empty : counts [] = false) {parts : List (List Char)}
    (plain : ∀ part ∈ parts, ∀ c ∈ part, p c = false) :
    (splitBy p ([sep].intercalate parts)).filter counts = parts.filter counts := by
  by_cases none : parts = []
  · subst none
    simp [splitBy, empty]
  · rw [splitBy_intercalate h none plain]

theorem splitFirst_append {sep : Char} {a : List Char} (h : sep ∉ a) (b : List Char) :
    splitFirst sep (a ++ sep :: b) = (a, some b) := by
  induction a with
  | nil => simp [splitFirst]
  | cons c a ih =>
    obtain ⟨hc, ha⟩ := not_or.1 fun e => h (List.mem_cons.2 e)
    simp [splitFirst, Ne.symm hc, ih ha]

end HubPublisher.Text

namespace HubPublisher.Url

open Text

/-! ## Octets -/

theorem percentDecode_of_plain {b : UInt8} (h : b.toNat ≠ 37) (rest : List UInt8) :
    percentDecode (b :: rest) = b :: percentDecode rest := by
  rw [percentDecode.eq_def]
  simp [h]

theorem percentDecode_of_digits {h l : UInt8} {x y : Nat}
    (hx : Hex.digit? (Char.ofNat h.toNat) = some x) (hy : Hex.digit? (Char.ofNat l.toNat) = some y)
    (rest : List UInt8) :
    percentDecode (37 :: h :: l :: rest) = UInt8.ofNat (x * 16 + y) :: percentDecode rest := by
  rw [percentDecode.eq_def]
  simp [hx, hy]

theorem encodeChar_of_ascii {c : Char} (h : c.toNat < 0x80) :
    Utf8.encodeChar c = [UInt8.ofNat c.toNat] := by
  simp [Utf8.encodeChar, h]

theorem upper_ascii {n : Nat} (h : n < 16) : (Hex.upper n).toNat < 0x80 := by
  have hall : ∀ m ∈ List.range 16, (Hex.upper m).toNat < 0x80 := by decide
  exact hall n (List.mem_range.mpr h)

theorem digit?_upper_octet {n : Nat} (h : n < 16) :
    Hex.digit? (Char.ofNat (UInt8.ofNat (Hex.upper n).toNat).toNat) = some n := by
  have := upper_ascii h
  rw [Utf8.toNat_octet (by omega), Char.ofNat_toNat]
  exact Hex.digit?_upper h

/-- An octet written with a percent sign is read as that octet. -/
theorem percentDecode_percentOctet (b : UInt8) (rest : List UInt8) :
    percentDecode (Utf8.encode (percentOctet b) ++ rest) = b :: percentDecode rest := by
  have hb : b.toNat < 256 := b.toNat_lt
  have high : b.toNat / 16 < 16 := by omega
  have low : b.toNat % 16 < 16 := by omega
  have octets : Utf8.encode (percentOctet b) = [37, UInt8.ofNat (Hex.upper (b.toNat / 16)).toNat,
      UInt8.ofNat (Hex.upper (b.toNat % 16)).toNat] := by
    simp only [Utf8.encode, percentOctet, List.flatMap_cons, List.flatMap_nil,
      encodeChar_of_ascii (upper_ascii high), encodeChar_of_ascii (upper_ascii low)]
    rfl
  have value : b.toNat / 16 * 16 + b.toNat % 16 = b.toNat := by omega
  rw [octets]
  simp only [List.cons_append, List.nil_append]
  rw [percentDecode_of_digits (digit?_upper_octet high) (digit?_upper_octet low), value,
    UInt8.ofNat_toNat]

theorem percentDecode_percentOctets (bs rest : List UInt8) :
    percentDecode (Utf8.encode (bs.flatMap percentOctet) ++ rest) = bs ++ percentDecode rest := by
  induction bs with
  | nil => rfl
  | cons b bs ih =>
    have step : Utf8.encode ((b :: bs).flatMap percentOctet)
        = Utf8.encode (percentOctet b) ++ Utf8.encode (bs.flatMap percentOctet) := by
      simp [Utf8.encode]
    rw [step, List.append_assoc, percentDecode_percentOctet, ih, List.cons_append]

namespace Form

/-! ## Texts -/

/-- A text with a space for every plus sign. -/
def spaced (cs : List Char) : List Char := cs.map fun c => if c = '+' then ' ' else c

/-- What the octets of a written text name. -/
def octets (cs : List Char) : List UInt8 := percentDecode (Utf8.encode (spaced cs))

theorem spaced_of_no_plus {cs : List Char} (h : '+' ∉ cs) : spaced cs = cs := by
  induction cs with
  | nil => rfl
  | cons c cs ih =>
    obtain ⟨hc, hcs⟩ := not_or.1 fun e => h (List.mem_cons.2 e)
    rw [spaced, List.map_cons, if_neg (Ne.symm hc)]
    exact congrArg (c :: ·) (ih hcs)

theorem ascii_of_isAlphanum {c : Char} (h : c.isAlphanum = true) : c.toNat < 0x80 := by
  rcases Bool.or_eq_true_iff.1 h with letter | digit
  · rcases Bool.or_eq_true_iff.1 letter with upper | lower
    · exact Nat.lt_of_le_of_lt (of_decide_eq_true upper).2 (by decide)
    · have last := (Bool.and_eq_true_iff.1 lower).2
      exact Nat.lt_of_le_of_lt (of_decide_eq_true last) (by decide)
  · exact Nat.lt_of_le_of_lt (Char.isDigit_iff_toNat.1 digit).2 (by decide)

/-- A plain character is ASCII and none of the signs that a form gives a meaning. -/
theorem ascii_of_plain {c : Char} (h : isPlain c = true) :
    c.toNat < 0x80 ∧ c.toNat ≠ 37 ∧ c ≠ '+' ∧ c ≠ '&' ∧ c ≠ '=' := by
  have number : ∀ d : Char, isPlain d = false → c ≠ d := by
    rintro d hd rfl
    rw [h] at hd
    cases hd
  refine ⟨?_, ?_, number _ (by decide), number _ (by decide), number _ (by decide)⟩
  · simp only [isPlain, Bool.or_eq_true, beq_iff_eq] at h
    rcases h with (((h | rfl) | rfl) | rfl) | rfl
    · exact ascii_of_isAlphanum h
    all_goals decide
  · intro e
    exact number '%' (by decide) (Char.toNat_inj.1 e)

theorem not_mem_percentOctet {d : Char} (hd : d ≠ '%') (upper : Hex.digit? d = none) (b : UInt8) :
    d ∉ percentOctet b := by
  have hb : b.toNat < 256 := b.toNat_lt
  have other : ∀ n, n < 16 → d ≠ Hex.upper n := by
    rintro n hn rfl
    rw [Hex.digit?_upper hn] at upper
    cases upper
  simp only [percentOctet, List.mem_cons, List.not_mem_nil, or_false, not_or]
  exact ⟨hd, other _ (by omega), other _ (by omega)⟩

/-- Of the characters that are no digits, only plain ones, plus and percent signs are written. -/
theorem not_mem_encodeChar {d : Char} (plain : isPlain d = false) (plus : d ≠ '+')
    (percent : d ≠ '%') (upper : Hex.digit? d = none) (c : Char) : d ∉ encodeChar c := by
  unfold encodeChar
  split
  · rename_i hc
    rintro hd
    rw [List.mem_singleton.1 hd, hc] at plain
    cases plain
  · split
    · simpa using plus
    · intro hd
      obtain ⟨b, -, hb⟩ := List.mem_flatMap.1 hd
      exact not_mem_percentOctet percent upper b hb

theorem not_mem_encode {d : Char} (plain : isPlain d = false) (plus : d ≠ '+') (percent : d ≠ '%')
    (upper : Hex.digit? d = none) (cs : List Char) : d ∉ encode cs := by
  intro hd
  obtain ⟨c, -, hc⟩ := List.mem_flatMap.1 hd
  exact not_mem_encodeChar plain plus percent upper c hc

theorem equals_not_mem_encode (cs : List Char) : '=' ∉ encode cs :=
  not_mem_encode (by decide) (by decide) (by decide) (by decide) cs

theorem ampersand_not_mem_encode (cs : List Char) : '&' ∉ encode cs :=
  not_mem_encode (by decide) (by decide) (by decide) (by decide) cs

/-- A written character is read as its own octets, whatever follows it. -/
theorem octets_encodeChar (c : Char) (rest : List Char) :
    octets (encodeChar c ++ rest) = Utf8.encodeChar c ++ octets rest := by
  have apart : octets (encodeChar c ++ rest)
      = percentDecode (Utf8.encode (spaced (encodeChar c)) ++ Utf8.encode (spaced rest)) := by
    simp [octets, spaced, Utf8.encode]
  rw [apart]
  unfold encodeChar
  split
  · rename_i hc
    obtain ⟨ascii, percent, plus, -⟩ := ascii_of_plain hc
    have one : Utf8.encode (spaced [c]) = [UInt8.ofNat c.toNat] := by
      simp [spaced, plus, Utf8.encode, encodeChar_of_ascii ascii]
    rw [one, encodeChar_of_ascii ascii]
    exact percentDecode_of_plain (by rwa [Utf8.toNat_octet (by omega)]) _
  · split
    · rename_i hc
      subst hc
      exact percentDecode_of_plain (by decide) _
    · have plus : '+' ∉ percentChar c := by
        intro h
        obtain ⟨b, -, hb⟩ := List.mem_flatMap.1 h
        exact not_mem_percentOctet (by decide) (by decide) b hb
      rw [spaced_of_no_plus plus, percentChar, percentDecode_percentOctets]
      rfl

theorem octets_encode (cs : List Char) : octets (encode cs) = Utf8.encode cs := by
  induction cs with
  | nil => rfl
  | cons c cs ih =>
    show octets (encodeChar c ++ encode cs) = Utf8.encodeChar c ++ Utf8.encode cs
    rw [octets_encodeChar, ih]

/-- Reading undoes writing. -/
theorem decode_encode (cs : List Char) : decode (encode cs) = cs := by
  show Utf8.decodeLossy (octets (encode cs)) = cs
  rw [octets_encode, Utf8.decodeLossy_encode]

/-! ## Pairs -/

/-- A written pair is read as that pair. -/
theorem readPair_encodePair (p : String × String) : readPair (encodePair p) = p := by
  rw [readPair, encodePair, splitFirst_append (equals_not_mem_encode _)]
  simp [decode_encode]

theorem ampersand_not_mem_encodePair (p : String × String) : '&' ∉ encodePair p := by
  simp only [encodePair, List.mem_append, List.mem_cons, not_or]
  exact ⟨ampersand_not_mem_encode _, by decide, ampersand_not_mem_encode _⟩

theorem read_encodePair (p : String × String) : read (encodePair p) = [p] := by
  have part : splitBy (· == '&') (encodePair p) = [encodePair p] := by
    refine splitBy_of_none fun c hc => ?_
    have : c ≠ '&' := fun e => ampersand_not_mem_encodePair p (e ▸ hc)
    simpa using this
  have full : (encodePair p).isEmpty = false := by
    simp [encodePair]
  simp [read, part, full, readPair_encodePair]

/-- Parts with ampersands between them are read one by one, the empty ones left out. -/
theorem read_intercalate {parts : List (List Char)} (plain : ∀ part ∈ parts, '&' ∉ part) :
    read (['&'].intercalate parts) = (parts.filter (!·.isEmpty)).map readPair := by
  rw [read, filter_splitBy_intercalate (by decide) (by decide)]
  intro part listed c hc
  exact beq_eq_false_iff_ne.2 fun same => plain part listed (same ▸ hc)

/-- The text of pairs is the texts of each with ampersands between them. -/
theorem write_eq_intercalate (pairs : List (String × String)) :
    write pairs = ['&'].intercalate (pairs.map encodePair) := by
  induction pairs with
  | nil => rfl
  | cons p rest ih =>
    cases rest with
    | nil => simp [write]
    | cons q rest =>
      rw [write, ih, List.map_cons, List.map_cons, List.map_cons, List.intercalate_cons_cons,
        List.append_assoc, List.singleton_append]

/-- What stands behind an ampersand is read apart from what stands before it. -/
theorem read_append (a b : List Char) : read (a ++ '&' :: b) = read a ++ read b := by
  rw [read, splitBy_append (by decide), List.filter_append, List.map_append]
  rfl

end Form

/-! ## Queries -/

/-- What is put before a pair behind a query. -/
def separator (query : String) : List Char := if query = "" then [] else ['&']

theorem toList_appendPairs_cons (query : String) (p : String × String)
    (rest : List (String × String)) :
    appendPairs query (p :: rest)
      = appendPairs (String.ofList (query.toList ++ separator query ++ Form.encodePair p))
        rest := by
  rw [appendPairs]
  congr 1
  by_cases h : query = "" <;> simp [separator, h, String.append_assoc]

/-- A pair behind a query is read behind the pairs of the query. -/
theorem read_pair_behind (query : String) (p : String × String) :
    Form.read (query.toList ++ separator query ++ Form.encodePair p)
      = Form.read query.toList ++ [p] := by
  by_cases h : query = ""
  · subst h
    exact Form.read_encodePair p
  · rw [separator, if_neg h, List.append_assoc, List.singleton_append, Form.read_append,
      Form.read_encodePair]

/-- Pairs put behind a query are read behind the pairs of the query, and the query itself stays as
it stands. -/
theorem appendPairs_spec (query : String) (pairs : List (String × String)) :
    Form.read (appendPairs query pairs).toList = Form.read query.toList ++ pairs ∧
      ∃ more, appendPairs query pairs = query ++ more := by
  induction pairs generalizing query with
  | nil => exact ⟨by simp [appendPairs], "", by simp [appendPairs]⟩
  | cons p rest ih =>
    rw [toList_appendPairs_cons]
    obtain ⟨pairs, more, grown⟩ :=
      ih (String.ofList (query.toList ++ separator query ++ Form.encodePair p))
    refine ⟨?_, ?_⟩
    · rw [pairs, String.toList_ofList, read_pair_behind, List.append_assoc, List.singleton_append]
    · refine ⟨String.ofList (separator query ++ Form.encodePair p) ++ more, ?_⟩
      rw [grown]
      simp [String.append_assoc]

theorem queryPairs_withPairs (u : Url) (pairs : List (String × String)) :
    (u.withPairs pairs).queryPairs = u.queryPairs ++ pairs :=
  (appendPairs_spec (u.query.getD "") pairs).1

end HubPublisher.Url
