import HubPublisher.Text.Base64
import HubPublisher.Text.Utf8
import HubPublisher.Text.Quoted

/-!
Certificate bundles: sections of base64 text between a line that begins and a line that ends them.

Lines outside a section are passed over, and so are sections of a kind that is not known. A section
that begins inside another one takes its place but keeps the lines read so far.
-/
namespace HubPublisher.Trust.Pem

open Text

/-- The kinds of section that are decoded. -/
inductive SectionKind where
  | certificate
  | publicKey
  | rsaPrivateKey
  | privateKey
  | ecPrivateKey
  | revocationList
  | certificateRequest
  | echConfig
  deriving DecidableEq, Repr

namespace SectionKind

def all : List SectionKind :=
  [certificate, publicKey, rsaPrivateKey, privateKey, ecPrivateKey, revocationList,
    certificateRequest, echConfig]

def label : SectionKind → String
  | certificate => "CERTIFICATE"
  | publicKey => "PUBLIC KEY"
  | rsaPrivateKey => "RSA PRIVATE KEY"
  | privateKey => "PRIVATE KEY"
  | ecPrivateKey => "EC PRIVATE KEY"
  | revocationList => "X509 CRL"
  | certificateRequest => "CERTIFICATE REQUEST"
  | echConfig => "ECHCONFIG"

def ofLabel? (label : List UInt8) : Option SectionKind :=
  all.find? fun kind => Utf8.encodeText kind.label == label

end SectionKind

/-- A section with the octets that its text stands for. -/
structure Section where
  kind : SectionKind
  octets : List UInt8
  deriving DecidableEq, Repr

/-- Why a bundle cannot be read. -/
inductive Fault where
  /-- A line begins a section but does not end as it should. -/
  | badStart (line : List UInt8)
  | notEnded (label : List UInt8)
  /-- The text of a section is malformed, at a character that base64 does not have or as a whole. -/
  | notBase64 (stray : Option UInt8)
  deriving DecidableEq, Repr

namespace Fault

def octetsText (octets : List UInt8) : String :=
  "[" ++ ", ".intercalate (octets.map fun b => toString b.toNat) ++ "]"

def message : Fault → String
  | badStart line => "IllegalSectionStart \x7b line: " ++ octetsText line ++ " \x7d"
  | notEnded label => "MissingSectionEnd \x7b end_marker: " ++ octetsText label ++ " \x7d"
  | notBase64 none => "Base64Decode(" ++ quoted "InvalidTrailingPadding" ++ ")"
  | notBase64 (some b) =>
    "Base64Decode(" ++ quoted ("InvalidCharacter(" ++ toString b.toNat ++ ")") ++ ")"

end Fault

/-! ## Lines -/

def isNewline (b : UInt8) : Bool := b == 10 || b == 13

/-- The lines of a bundle; an end of line is one octet, so there may be empty ones. -/
def lines : List UInt8 → List (List UInt8)
  | [] => [[]]
  | b :: rest =>
    if isNewline b then [] :: lines rest
    else match lines rest with
      | [] => [[b]]
      | line :: more => (b :: line) :: more

/-- What is left of octets after a beginning that they have to have. -/
def dropStart? : List UInt8 → List UInt8 → Option (List UInt8)
  | [], octets => some octets
  | _ :: _, [] => none
  | a :: start, b :: octets => if a = b then dropStart? start octets else none

def dash : UInt8 := 45

def space : UInt8 := 32

/-- Five dashes. -/
def rule : List UInt8 := List.replicate 5 dash

def beginMark : List UInt8 := rule ++ Utf8.encodeText "BEGIN "

def endMark : List UInt8 := rule ++ Utf8.encodeText "END "

/-- The label of a line that begins a section: five dashes follow it, with spaces among them or
not. -/
def label? (afterMark : List UInt8) : Option (List UInt8) :=
  let tail := (afterMark.reverse.takeWhile fun b => b == dash || b == space).reverse
  let dashes := tail.dropWhile (· == space)
  if dashes.count dash = 5 then some (afterMark.take (afterMark.length - dashes.length)) else none

/-- Whether a line ends the section with this label. -/
def endsSection (label line : List UInt8) : Bool :=
  match dropStart? (endMark ++ label ++ rule) line with
  | some _ => true
  | none => false

/-! ## Sections -/

/-- A bundle as far as it has been read: the label of the section that is open, and its text. -/
structure State where
  label : Option (List UInt8)
  text : List UInt8
  done : List Section

namespace State

def start : State := ⟨none, [], []⟩

/-- Ends a section: one of a known kind is decoded. -/
def close (s : State) (label : List UInt8) : Except Fault State :=
  match SectionKind.ofLabel? label with
  | none => .ok ⟨none, [], s.done⟩
  | some kind =>
    match Base64.decode? s.text with
    | none => .error (.notBase64 (s.text.find? (!Base64.isSymbol ·)))
    | some octets => .ok ⟨none, [], s.done ++ [⟨kind, octets⟩]⟩

def line (s : State) (line : List UInt8) : Except Fault State :=
  match dropStart? beginMark line with
  | some afterMark =>
    match label? afterMark with
    | some label => .ok { s with label := some label }
    | none => .error (.badStart line)
  | none =>
    match s.label with
    | none => .ok s
    | some label =>
      if endsSection label line then s.close label else .ok { s with text := s.text ++ line }

end State

/-- The sections of known kinds, in order. -/
def sections (bundle : List UInt8) : Except Fault (List Section) :=
  match (lines bundle).foldlM State.line State.start with
  | .error e => .error e
  | .ok s =>
    match s.label with
    | some label => .error (.notEnded label)
    | none => .ok s.done

/-- The certificates of a bundle, in order. -/
def certificates (bundle : List UInt8) : Except Fault (List (List UInt8)) :=
  match sections bundle with
  | .error e => .error e
  | .ok ss => .ok ((ss.filter fun s => s.kind == .certificate).map Section.octets)

end HubPublisher.Trust.Pem
