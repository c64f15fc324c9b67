/-!
UTF-8: the octets of a character, and the two ways to read octets back.

Reading splits the octets into characters and malformed parts, where a malformed part is the
longest run that could have started a character (or a single octet). The strict reader refuses a
text with such a part, the lenient reader shows U+FFFD for each.
-/
namespace HubPublisher.Text.Utf8

abbrev Octets := List UInt8

/-- The octets of one character: one to four, by the size of its number. -/
def encodeChar (c : Char) : Octets :=
  let n := c.toNat
  if n < 0x80 then [UInt8.ofNat n]
  else if n < 0x800 then [UInt8.ofNat (0xC0 + n / 64), UInt8.ofNat (0x80 + n % 64)]
  else if n < 0x10000 then
    [UInt8.ofNat (0xE0 + n / 4096), UInt8.ofNat (0x80 + n / 64 % 64), UInt8.ofNat (0x80 + n % 64)]
  else
    [UInt8.ofNat (0xF0 + n / 262144), UInt8.ofNat (0x80 + n / 4096 % 64),
      UInt8.ofNat (0x80 + n / 64 % 64), UInt8.ofNat (0x80 + n % 64)]

def encode (cs : List Char) : Octets := cs.flatMap encodeChar

def encodeText (s : String) : Octets := encode s.toList

/-- How many octets a text has. -/
def size (s : String) : Nat := s.utf8ByteSize

/-- An octet that continues a character. -/
def isTail (b : UInt8) : Bool := 0x80 ≤ b.toNat && b.toNat ≤ 0xBF

/-- The second octets a three-octet character may have after its first: none that would repeat a
shorter form or name a surrogate. -/
def isSecondOfThree (a b : UInt8) : Bool :=
  (if a.toNat = 0xE0 then 0xA0 ≤ b.toNat else 0x80 ≤ b.toNat)
    && (if a.toNat = 0xED then b.toNat ≤ 0x9F else b.toNat ≤ 0xBF)

/-- The second octets a four-octet character may have after its first: none that would repeat a
shorter form or pass U+10FFFF. -/
def isSecondOfFour (a b : UInt8) : Bool :=
  (if a.toNat = 0xF0 then 0x90 ≤ b.toNat else 0x80 ≤ b.toNat)
    && (if a.toNat = 0xF4 then b.toNat ≤ 0x8F else b.toNat ≤ 0xBF)

/-- The characters of a run of octets in order, with `none` for every malformed part. -/
def split : Octets → List (Option Char)
  | [] => []
  | a :: rest =>
    if a.toNat < 0x80 then some (Char.ofNat a.toNat) :: split rest
    else if 0xC2 ≤ a.toNat ∧ a.toNat ≤ 0xDF then
      match rest with
      | b :: rest₁ =>
        if isTail b then
          some (Char.ofNat ((a.toNat - 0xC0) * 64 + (b.toNat - 0x80))) :: split rest₁
        else none :: split (b :: rest₁)
      | [] => [none]
    else if 0xE0 ≤ a.toNat ∧ a.toNat ≤ 0xEF then
      match rest with
      | b :: rest₁ =>
        if isSecondOfThree a b then
          match rest₁ with
          | c :: rest₂ =>
            if isTail c then
              some (Char.ofNat ((a.toNat - 0xE0) * 4096 + (b.toNat - 0x80) * 64
                + (c.toNat - 0x80))) :: split rest₂
            else none :: split (c :: rest₂)
          | [] => [none]
        else none :: split (b :: rest₁)
      | [] => [none]
    else if 0xF0 ≤ a.toNat ∧ a.toNat ≤ 0xF4 then
      match rest with
      | b :: rest₁ =>
        if isSecondOfFour a b then
          match rest₁ with
          | c :: rest₂ =>
            if isTail c then
              match rest₂ with
              | d :: rest₃ =>
                if isTail d then
                  some (Char.ofNat ((a.toNat - 0xF0) * 262144 + (b.toNat - 0x80) * 4096
                    + (c.toNat - 0x80) * 64 + (d.toNat - 0x80))) :: split rest₃
                else none :: split (d :: rest₃)
              | [] => [none]
            else none :: split (c :: rest₂)
          | [] => [none]
        else none :: split (b :: rest₁)
      | [] => [none]
    else none :: split rest

/-- Shown in place of a malformed part. -/
def replacement : Char := Char.ofNat 0xFFFD

/-- Every malformed part reads as U+FFFD. -/
def decodeLossy (bs : Octets) : List Char := (split bs).map (·.getD replacement)

/-- Octets with a malformed part are no text. -/
def decode? (bs : Octets) : Option (List Char) := (split bs).mapM id

end HubPublisher.Text.Utf8
