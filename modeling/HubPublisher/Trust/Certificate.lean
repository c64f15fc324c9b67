import HubPublisher.Trust.Der

/-!
Certificates as anchors of trust: the name and the key that a chain has to lead to.

A certificate is a signed body. The body of version 3 has a serial number, the algorithm that it is
signed with, four parts of which two are the name and the key, and extensions. A body that does not
say its version is of version 1 and has no extensions. Neither dates nor the signature itself are
checked: an anchor is trusted because it was given.
-/
namespace HubPublisher.Trust

/-- Where trust starts. -/
structure Anchor where
  subject : List UInt8
  publicKey : List UInt8
  /-- The names that a chain from here is confined to. -/
  nameConstraints : Option (List UInt8)
  deriving DecidableEq, Repr

/-- Why octets are no anchor. -/
inductive CertificateFault where
  | malformed
  | unsupportedVersion
  | algorithmMismatch
  | unknownCriticalExtension
  | repeatedExtension
  deriving DecidableEq, Repr

namespace CertificateFault

/-- The name of a fault for which there is no common one. -/
def detail : CertificateFault → Option String
  | malformed => none
  | unsupportedVersion => some "UnsupportedCertVersion"
  | algorithmMismatch => some "SignatureAlgorithmMismatch"
  | unknownCriticalExtension => some "UnsupportedCriticalExtension"
  | repeatedExtension => some "ExtensionValueInvalid"

def message (e : CertificateFault) : String :=
  match e.detail with
  | none => "invalid peer certificate: BadEncoding"
  | some name => "invalid peer certificate: Other(OtherError(" ++ name ++ "))"

end CertificateFault

namespace Certificate

open Der

/-! ## The signed body -/

/-- A body and the algorithm that it is signed with. -/
structure Signed where
  body : List UInt8
  algorithm : List UInt8

/-- A body, an algorithm and a signature of whole octets, and nothing else. -/
def signed? (der : List UInt8) : Option Signed :=
  match only? sequence der with
  | none => none
  | some inner =>
    match expect? sequence inner with
    | none => none
    | some (body, rest) =>
      match expect? sequence rest with
      | none => none
      | some (algorithm, rest) =>
        match only? bitString rest with
        | some (0 :: _) => some ⟨body, algorithm⟩
        | _ => none

/-! ## Extensions -/

/-- The standard extensions whose values are remembered, by the last octet of their ids. -/
def remembered : List UInt8 := [15, 17, 19, 30, 31, 37]

/-- The extension that says what a key may be used for. -/
def keyUsage : UInt8 := 15

/-- The extension that confines names. -/
def nameConstraints : UInt8 := 30

/-- The last octet of the id of a remembered extension. -/
def rememberedId? (id : List UInt8) : Option UInt8 :=
  match id with
  | [0x55, 0x1D, n] => if n ∈ remembered then some n else none
  | _ => none

/-- Whether an extension is critical, and what follows; if it does not say so, it is not. -/
def critical? (octets : List UInt8) : Option (Bool × List UInt8) :=
  match octets with
  | [] => some (false, [])
  | tag :: _ =>
    if tag = boolean then
      match expect? boolean octets with
      | some ([0xFF], rest) => some (true, rest)
      | some ([0x00], rest) => some (false, rest)
      | _ => none
    else some (false, octets)

/-- What one remembered extension says: key usage is kept as it stands, all others are one
sequence. -/
def remember (seen : List (UInt8 × List UInt8)) (id : UInt8) (value : List UInt8) :
    Except CertificateFault (List (UInt8 × List UInt8)) :=
  if seen.any (·.1 == id) then .error .repeatedExtension
  else if id = keyUsage then .ok (seen ++ [(id, value)])
  else
    match only? sequence value with
    | some content => .ok (seen ++ [(id, content)])
    | none => .error .malformed

/-- Adds one extension to those seen before. One that is not remembered may not be critical. -/
def readExtension (seen : List (UInt8 × List UInt8)) (octets : List UInt8) :
    Except CertificateFault (List (UInt8 × List UInt8)) :=
  match expect? objectId octets with
  | none => .error .malformed
  | some (id, rest) =>
    match critical? rest with
    | none => .error .malformed
    | some (critical, rest) =>
      match expect? octetString rest with
      | none => .error .malformed
      | some (value, rest) =>
        let read :=
          match rememberedId? id with
          | some n => remember seen n value
          | none => if critical then .error .unknownCriticalExtension else .ok seen
        match read with
        | .error e => .error e
        | .ok seen => if rest.isEmpty then .ok seen else .error .malformed

/-- Adds all extensions of a row. -/
def readExtensions (seen : List (UInt8 × List UInt8)) (octets : List UInt8) :
    Except CertificateFault (List (UInt8 × List UInt8)) :=
  if octets.isEmpty then .ok seen
  else
    match _h : expect? sequence octets with
    | none => .error .malformed
    | some (extension, rest) =>
      match readExtension seen extension with
      | .error e => .error e
      | .ok seen => readExtensions seen rest
termination_by octets.length
decreasing_by exact length_lt_of_expect? _h

/-- The extensions at the end of a body, if there are any. -/
def extensionsOf (octets : List UInt8) :
    Except CertificateFault (List (UInt8 × List UInt8)) :=
  if octets.isEmpty then .ok []
  else
    match only? (part 3) octets with
    | none => .error .malformed
    | some tagged =>
      match only? sequence tagged with
      | none => .error .malformed
      | some row => readExtensions [] row

/-! ## Bodies -/

/-- The parts that bodies of both versions have. -/
structure Parts where
  algorithm : List UInt8
  subject : List UInt8
  publicKey : List UInt8

/-- Serial number, algorithm, issuer, validity, subject and key, and what follows them. -/
def parts? (octets : List UInt8) : Option (Parts × List UInt8) :=
  match expect? integer octets with
  | none => none
  | some (_, rest) =>
    match expect? sequence rest with
    | none => none
    | some (algorithm, rest) =>
      match expect? sequence rest with
      | none => none
      | some (_, rest) =>
        match expect? sequence rest with
        | none => none
        | some (_, rest) =>
          match expect? sequence rest with
          | none => none
          | some (subject, rest) =>
            match expect? sequence rest with
            | none => none
            | some (publicKey, rest) => some (⟨algorithm, subject, publicKey⟩, rest)

/-- A small number that is not negative, written with the octets it needs. -/
def smallNumber? (octets : List UInt8) : Option UInt8 :=
  match octets with
  | [b] => if b.toNat < 0x80 then some b else none
  | [0, b] => if 0x80 ≤ b.toNat then some b else none
  | _ => none

/-- Whether the part that says the version says three. -/
def checkVersion (octets : List UInt8) : Except CertificateFault Unit :=
  match expect? integer octets with
  | none => .error .malformed
  | some (content, rest) =>
    match smallNumber? content with
    | none => .error .malformed
    | some n => if n = 2 ∧ rest.isEmpty then .ok () else .error .unsupportedVersion

/-- The anchor of a body of version 3, after its version. The algorithm it names is the one it is
signed with. -/
def anchorOfBody (algorithm : List UInt8) (octets : List UInt8) :
    Except CertificateFault Anchor :=
  match parts? octets with
  | none => .error .malformed
  | some (parts, rest) =>
    if parts.algorithm ≠ algorithm then .error .algorithmMismatch
    else
      match extensionsOf rest with
      | .error e => .error e
      | .ok seen => .ok ⟨parts.subject, parts.publicKey, seen.lookup nameConstraints⟩

/-- The anchor of a body that does not say its version. -/
def anchorOfOldBody (octets : List UInt8) : Except CertificateFault Anchor :=
  match parts? octets with
  | some (parts, []) => .ok ⟨parts.subject, parts.publicKey, none⟩
  | _ => .error .unsupportedVersion

end Certificate

/-- The anchor that a certificate is. -/
def Anchor.ofCertificate (der : List UInt8) : Except CertificateFault Anchor :=
  match Certificate.signed? der with
  | none => .error .malformed
  | some s =>
    match Der.expect? (Der.part 0) s.body with
    | none => Certificate.anchorOfOldBody s.body
    | some (version, rest) =>
      match Certificate.checkVersion version with
      | .error e => .error e
      | .ok () => Certificate.anchorOfBody s.algorithm rest

end HubPublisher.Trust
