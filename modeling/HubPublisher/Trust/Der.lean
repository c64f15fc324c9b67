/-!
Elements of a certificate's encoding: a tag, the length of the content, and the content.

The length is written with as few octets as it needs, and no content is longer than what two octets
of length can say. An element is read off the front of a row of octets, so what is left is shorter
(`length_lt_of_next?`), and a row of elements can be read one by one.
-/
namespace HubPublisher.Trust.Der

structure Element where
  tag : UInt8
  content : List UInt8
  deriving DecidableEq, Repr

/-! ## Tags -/

def boolean : UInt8 := 0x01
def integer : UInt8 := 0x02
def bitString : UInt8 := 0x03
def octetString : UInt8 := 0x04
def objectId : UInt8 := 0x06
def sequence : UInt8 := 0x30

/-- The tag of a part that is told by its number. -/
def part (n : UInt8) : UInt8 := 0xA0 + n

/-- Whether a tag has a number too large for its octet. -/
def isLongTag (tag : UInt8) : Bool := tag.toNat % 32 == 31

/-! ## Reading -/

/-- The least length that an element cannot have. -/
def lengthLimit : Nat := 0xFFFF

/-- A length and the octets after it. -/
def length? : List UInt8 → Option (Nat × List UInt8)
  | [] => none
  | n :: rest =>
    if n.toNat < 0x80 then some (n.toNat, rest)
    else if n = 0x81 then
      match rest with
      | a :: rest => if 0x80 ≤ a.toNat then some (a.toNat, rest) else none
      | [] => none
    else if n = 0x82 then
      match rest with
      | a :: b :: rest =>
        let len := a.toNat * 256 + b.toNat
        if 0x100 ≤ len ∧ len < lengthLimit then some (len, rest) else none
      | _ => none
    else none

/-- The first element and the octets after it. -/
def next? : List UInt8 → Option (Element × List UInt8)
  | [] => none
  | tag :: rest =>
    if isLongTag tag then none
    else
      match length? rest with
      | none => none
      | some (len, rest) =>
        if len ≤ rest.length then some (⟨tag, rest.take len⟩, rest.drop len) else none

/-- The content of the first element, which has to have this tag, and the octets after it. -/
def expect? (tag : UInt8) (octets : List UInt8) : Option (List UInt8 × List UInt8) :=
  match next? octets with
  | some (e, rest) => if e.tag = tag then some (e.content, rest) else none
  | none => none

/-- The content of the only element, which has to have this tag. -/
def only? (tag : UInt8) (octets : List UInt8) : Option (List UInt8) :=
  match expect? tag octets with
  | some (content, []) => some content
  | _ => none

/-! ## What is left is shorter -/

theorem length_le_of_length? {octets rest : List UInt8} {len : Nat}
    (h : length? octets = some (len, rest)) : rest.length ≤ octets.length := by
  unfold length? at h
  grind

theorem length_lt_of_next? {octets rest : List UInt8} {e : Element}
    (h : next? octets = some (e, rest)) : rest.length < octets.length := by
  unfold next? at h
  grind [→ length_le_of_length?, List.length_drop]

theorem length_lt_of_expect? {tag : UInt8} {octets content rest : List UInt8}
    (h : expect? tag octets = some (content, rest)) : rest.length < octets.length := by
  unfold expect? at h
  grind [→ length_lt_of_next?]

end HubPublisher.Trust.Der
