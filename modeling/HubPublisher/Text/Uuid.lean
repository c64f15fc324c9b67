import HubPublisher.Text.Hex

/-!
Random identifiers: sixteen random octets as hexadecimal digits in five groups, with the marks of a
random identifier in two of them.
-/
namespace HubPublisher.Text.Uuid

/-- The octets with the marks that say the identifier is random. -/
def marked (octets : List UInt8) : List UInt8 :=
  octets.zipIdx.map fun (b, i) =>
    if i = 6 then UInt8.ofNat (b.toNat % 16 + 0x40)
    else if i = 8 then UInt8.ofNat (b.toNat % 64 + 0x80)
    else b

def digits (octets : List UInt8) : List Char :=
  octets.flatMap fun b => [Hex.lower (b.toNat / 16), Hex.lower (b.toNat % 16)]

/-- The identifier of sixteen octets. -/
def ofOctets (octets : List UInt8) : String :=
  let ds := digits (marked octets)
  let group (start count : Nat) := String.ofList ((ds.drop start).take count)
  "-".intercalate [group 0 8, group 8 4, group 12 4, group 16 4, group 20 12]

end HubPublisher.Text.Uuid
