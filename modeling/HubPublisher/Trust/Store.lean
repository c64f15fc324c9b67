import HubPublisher.Error
import HubPublisher.Files
import HubPublisher.Trust.Certificate
import HubPublisher.Trust.Pem

/-!
Trust stores: the certificates that a hub has to be vouched for by.

A store without certificates stands for the roots of the platform. One that is read from a bundle is
therefore never empty: a bundle that cannot be read or has no certificate gives no store at all.
-/
namespace HubPublisher.Trust

structure Store where
  certificates : List (List UInt8)
  deriving DecidableEq, Repr

/-- What the connections to a hub are checked against. -/
inductive Roots where
  | platform
  | anchors (anchors : List Anchor)
  deriving DecidableEq, Repr

namespace Store

/-- The store that stands for the roots of the platform. -/
def platform : Store := ⟨[]⟩

/-- A store of the certificates given. -/
def ofCertificates (certificates : List (List UInt8)) : Store := ⟨certificates⟩

/-- A store of all certificates of a bundle, of which there has to be one. -/
def ofBundle (bundle : List UInt8) : Except ServerError Store :=
  match Pem.certificates bundle with
  | .error e => .error (.trustRefused ("invalid PEM data: " ++ e.message))
  | .ok [] => .error (.trustRefused "trust store contains no certificates")
  | .ok (c :: cs) => .ok ⟨c :: cs⟩

/-- The store of the bundle in a file. -/
def ofFile (files : Files) (path : String) : Except ServerError Store :=
  match files path with
  | .error e => .error (.trustRefused ("cannot read " ++ path ++ ": " ++ e.message))
  | .ok bundle => ofBundle bundle

def size (s : Store) : Nat := s.certificates.length

def isEmpty (s : Store) : Bool := s.certificates.isEmpty

/-- The anchors of certificates, each of which has to be one. -/
def anchors : List (List UInt8) → Except CertificateFault (List Anchor)
  | [] => .ok []
  | c :: cs =>
    match Anchor.ofCertificate c with
    | .error e => .error e
    | .ok a =>
      match anchors cs with
      | .error e => .error e
      | .ok as => .ok (a :: as)

/-- What connections are checked against: the certificates, or the platform if there are none. -/
def roots (s : Store) : Except ServerError Roots :=
  if s.isEmpty then .ok .platform
  else
    match anchors s.certificates with
    | .error e => .error (.trustRefused e.message)
    | .ok as => .ok (.anchors as)

end Store

end HubPublisher.Trust
