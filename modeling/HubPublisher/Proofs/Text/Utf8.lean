import HubPublisher.Text.Utf8

/-!
Octets read back as the characters they were written from.

`split_encodeChar` is the step: the octets of a character, whatever follows them, are split off as
that character. A character is no surrogate, and with that the second octet is in its range in
every size. So the lenient reader undoes the writer (`decodeLossy_encode`) and shows no U+FFFD that
was not written.
-/
namespace HubPublisher.Text.Utf8

theorem toNat_octet {n : Nat} (h : n < 256) : (UInt8.ofNat n).toNat = n := by
  simp [Nat.mod_eq_of_lt h]

/-- A character is below the surrogates or between them and U+110000. -/
theorem toNat_char (c : Char) : c.toNat < 0xD800 ∨ 0xDFFF < c.toNat ∧ c.toNat < 0x110000 :=
  c.valid

theorem isTail_octet {n : Nat} (h : n < 64) : isTail (UInt8.ofNat (0x80 + n)) = true := by
  rw [isTail, toNat_octet (by omega)]
  simp only [Bool.and_eq_true, decide_eq_true_eq]
  omega

section Sizes

variable {c : Char} {rest : Octets}

theorem split_one (h : c.toNat < 0x80) :
    split (encodeChar c ++ rest) = some c :: split rest := by
  have ha : (UInt8.ofNat c.toNat).toNat = c.toNat := toNat_octet (by omega)
  simp only [encodeChar, if_pos h, List.cons_append, List.nil_append]
  rw [split.eq_def]
  simp only [ha]
  rw [if_pos h, Char.ofNat_toNat]

theorem split_two (low : 0x80 ≤ c.toNat) (high : c.toNat < 0x800) :
    split (encodeChar c ++ rest) = some c :: split rest := by
  have ha : (UInt8.ofNat (0xC0 + c.toNat / 64)).toNat = 0xC0 + c.toNat / 64 :=
    toNat_octet (by omega)
  have hb : (UInt8.ofNat (0x80 + c.toNat % 64)).toNat = 0x80 + c.toNat % 64 :=
    toNat_octet (by omega)
  have value : (0xC0 + c.toNat / 64 - 0xC0) * 64 + (0x80 + c.toNat % 64 - 0x80) = c.toNat := by
    omega
  simp only [encodeChar, if_neg (Nat.not_lt.2 low), if_pos high, List.cons_append, List.nil_append]
  rw [split.eq_def]
  simp only [ha]
  rw [if_neg (by omega), if_pos (by omega)]
  simp only [isTail_octet (Nat.mod_lt _ (by decide : 0 < 64)), if_true, hb, value, Char.ofNat_toNat]

theorem split_three (low : 0x800 ≤ c.toNat) (high : c.toNat < 0x10000) :
    split (encodeChar c ++ rest) = some c :: split rest := by
  have ha : (UInt8.ofNat (0xE0 + c.toNat / 4096)).toNat = 0xE0 + c.toNat / 4096 :=
    toNat_octet (by omega)
  have hb : (UInt8.ofNat (0x80 + c.toNat / 64 % 64)).toNat = 0x80 + c.toNat / 64 % 64 :=
    toNat_octet (by omega)
  have hd : (UInt8.ofNat (0x80 + c.toNat % 64)).toNat = 0x80 + c.toNat % 64 :=
    toNat_octet (by omega)
  -- neither a shorter form nor a surrogate
  have second : isSecondOfThree (UInt8.ofNat (0xE0 + c.toNat / 4096))
      (UInt8.ofNat (0x80 + c.toNat / 64 % 64)) = true := by
    have := toNat_char c
    rw [isSecondOfThree, ha, hb]
    split <;> split <;> simp only [Bool.and_eq_true, decide_eq_true_eq] <;> omega
  have value : (0xE0 + c.toNat / 4096 - 0xE0) * 4096 + (0x80 + c.toNat / 64 % 64 - 0x80) * 64
      + (0x80 + c.toNat % 64 - 0x80) = c.toNat := by
    omega
  simp only [encodeChar, if_neg (Nat.not_lt.2 (Nat.le_trans (by decide : 0x80 ≤ 0x800) low)),
    if_neg (Nat.not_lt.2 low), if_pos high, List.cons_append, List.nil_append]
  rw [split.eq_def]
  simp only [ha]
  rw [if_neg (by omega), if_neg (by omega), if_pos (by omega)]
  simp only [second, isTail_octet (Nat.mod_lt _ (by decide : 0 < 64)), if_true, hb, hd, value,
    Char.ofNat_toNat]

theorem split_four (low : 0x10000 ≤ c.toNat) :
    split (encodeChar c ++ rest) = some c :: split rest := by
  have top := toNat_char c
  have ha : (UInt8.ofNat (0xF0 + c.toNat / 262144)).toNat = 0xF0 + c.toNat / 262144 :=
    toNat_octet (by omega)
  have hb : (UInt8.ofNat (0x80 + c.toNat / 4096 % 64)).toNat = 0x80 + c.toNat / 4096 % 64 :=
    toNat_octet (by omega)
  have hd : (UInt8.ofNat (0x80 + c.toNat / 64 % 64)).toNat = 0x80 + c.toNat / 64 % 64 :=
    toNat_octet (by omega)
  have he : (UInt8.ofNat (0x80 + c.toNat % 64)).toNat = 0x80 + c.toNat % 64 :=
    toNat_octet (by omega)
  -- neither a shorter form nor past U+10FFFF
  have second : isSecondOfFour (UInt8.ofNat (0xF0 + c.toNat / 262144))
      (UInt8.ofNat (0x80 + c.toNat / 4096 % 64)) = true := by
    rw [isSecondOfFour, ha, hb]
    split <;> split <;> simp only [Bool.and_eq_true, decide_eq_true_eq] <;> omega
  have value : (0xF0 + c.toNat / 262144 - 0xF0) * 262144
      + (0x80 + c.toNat / 4096 % 64 - 0x80) * 4096 + (0x80 + c.toNat / 64 % 64 - 0x80) * 64
      + (0x80 + c.toNat % 64 - 0x80) = c.toNat := by
    omega
  simp only [encodeChar, if_neg (Nat.not_lt.2 (Nat.le_trans (by decide : 0x80 ≤ 0x10000) low)),
    if_neg (Nat.not_lt.2 (Nat.le_trans (by decide : 0x800 ≤ 0x10000) low)),
    if_neg (Nat.not_lt.2 low), List.cons_append, List.nil_append]
  rw [split.eq_def]
  simp only [ha]
  rw [if_neg (by omega), if_neg (by omega), if_neg (by omega), if_pos (by omega)]
  simp only [second, isTail_octet (Nat.mod_lt _ (by decide : 0 < 64)), if_true, hb, hd, he, value,
    Char.ofNat_toNat]

end Sizes

/-- The octets of a character are read as that character, whatever follows them. -/
theorem split_encodeChar (c : Char) (rest : Octets) :
    split (encodeChar c ++ rest) = some c :: split rest := by
  rcases Nat.lt_or_ge c.toNat 0x80 with h | h
  · exact split_one h
  rcases Nat.lt_or_ge c.toNat 0x800 with h' | h'
  · exact split_two h h'
  rcases Nat.lt_or_ge c.toNat 0x10000 with h'' | h''
  · exact split_three h' h''
  · exact split_four h''

theorem split_encode (cs : List Char) : split (encode cs) = cs.map some := by
  induction cs with
  | nil => rfl
  | cons c cs ih =>
    show split (encodeChar c ++ encode cs) = _
    rw [split_encodeChar, ih, List.map_cons]

/-- Written characters are read back as they were. -/
theorem decodeLossy_encode (cs : List Char) : decodeLossy (encode cs) = cs := by
  rw [decodeLossy, split_encode, List.map_map]
  exact List.map_id cs

end HubPublisher.Text.Utf8
