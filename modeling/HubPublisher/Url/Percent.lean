import HubPublisher.Text.Hex
import HubPublisher.Text.Utf8

/-!
Percent encoding: a character outside what a place admits is written as its octets, each a percent
sign and two upper-case digits. Which characters that concerns is a class that depends on the
place; whatever is not ASCII is always written so.
-/
namespace HubPublisher.Url

open Text

/-- An octet written with a percent sign. -/
def percentOctet (b : UInt8) : List Char :=
  ['%', Hex.upper (b.toNat / 16), Hex.upper (b.toNat % 16)]

def percentChar (c : Char) : List Char := (Utf8.encodeChar c).flatMap percentOctet

/-- Writes the members of a class by their octets and leaves the rest. -/
def encodeBy (p : Char → Bool) (cs : List Char) : List Char :=
  cs.flatMap fun c => if p c then percentChar c else [c]

/-- Replaces a percent sign with two digits after it by the octet they name. -/
def percentDecode : List UInt8 → List UInt8
  | [] => []
  | b :: rest =>
    if b.toNat = 37 then
      match rest with
      | h :: l :: rest' =>
        match Hex.digit? (Char.ofNat h.toNat), Hex.digit? (Char.ofNat l.toNat) with
        | some x, some y => UInt8.ofNat (x * 16 + y) :: percentDecode rest'
        | _, _ => b :: percentDecode (h :: l :: rest')
      | [l] => [b, l]
      | [] => [b]
    else b :: percentDecode rest

/-! ## Classes -/

/-- Controls, and everything outside ASCII. -/
def isControl (c : Char) : Bool := c.toNat < 0x20 || 0x7F ≤ c.toNat

def inFragment (c : Char) : Bool :=
  isControl c || c == ' ' || c == '"' || c == '<' || c == '>' || c == '`'

def inPath (c : Char) : Bool :=
  inFragment c || c == '#' || c == '?' || c == Char.ofNat 0x7B || c == Char.ofNat 0x7D

def inUserInfo (c : Char) : Bool :=
  inPath c || c == '/' || c == ':' || c == ';' || c == '=' || c == '@' || c == '[' || c == '\\'
    || c == ']' || c == '^' || c == '|'

def inQuery (c : Char) : Bool :=
  isControl c || c == ' ' || c == '"' || c == '#' || c == '<' || c == '>'

def inSpecialQuery (c : Char) : Bool := inQuery c || c == '\''

end HubPublisher.Url
