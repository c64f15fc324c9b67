import HubPublisher.Hub.Phrase
import HubPublisher.Hub.Request
import HubPublisher.Text.Utf8

/-!
Exchanges with the hub: what can be sent, and what comes back.

A request that has no valid form is not sent at all. Otherwise the hub may be out of reach, may not
answer, may stop in the middle of its answer, or answers with a status and a body.
-/
namespace HubPublisher.Hub

/-- What the way to the hub and back brings. -/
inductive Exchange where
  /-- The hub never saw the request. -/
  | unreachable
  /-- The hub saw the request, but there was no answer in time. -/
  | unanswered
  /-- The answer ended before its body did. -/
  | cutShort
  | answered (status : Nat) (body : List UInt8)
  deriving DecidableEq, Repr

/-- Whether the hub saw the request. -/
def Exchange.isSeen : Exchange → Bool
  | unreachable => false
  | _ => true

/-- An answer of the hub that was read to its end. -/
structure Reply where
  status : Nat
  phrase : Option String
  body : String
  deriving DecidableEq, Repr

/-! ## What can be sent -/

/-- The most octets that the URL of a request has. -/
def urlLimit : Nat := 65534

/-- Whether a character may stand in the host of a request. -/
def isHostChar (c : Char) : Bool :=
  !(c == '"' || c == Char.ofNat 0x60 || c == Char.ofNat 0x7B || c == Char.ofNat 0x7D)

/-- Whether a text can be the value of a header: tabs are its only control characters. -/
def isHeaderValue (s : String) : Bool :=
  s.toList.all fun c => c == '\t' || (32 ≤ c.toNat && c.toNat != 127)

namespace Request

/-- The URL as messages show it. -/
def shownUrl (r : Request) : String := r.url.withoutUser.write

/-- Whether a request can be sent to its URL. -/
def isSendable (r : Request) : Bool :=
  (r.url.scheme == "http" || r.url.scheme == "https")
    && ((r.url.host.map Url.Host.write).getD "").toList.all isHostChar
    && r.shownUrl.utf8ByteSize ≤ urlLimit

/-- What keeps a request from being sent. -/
def fault? (r : Request) : Option TransportError :=
  if r.url.host.isNone then some (.notBuiltFor r.shownUrl)
  else if !isHeaderValue r.correlation.text then some .notBuilt
  else if !r.isSendable then some (.notBuiltFor r.shownUrl)
  else none

/-- What an exchange is to the one who sent the request. The body is read as text whatever it is
said to be. -/
def exchange (r : Request) (x : Exchange) : Except TransportError Reply :=
  match r.fault? with
  | some e => .error e
  | none =>
    match x with
    | .unreachable => .error (.notSent r.shownUrl)
    | .unanswered => .error (.notSent r.shownUrl)
    | .cutShort => .error .bodyBroken
    | .answered status body =>
      .ok ⟨status, phrase? status, String.ofList (Text.Utf8.decodeLossy body)⟩

/-- Whether the hub sees the request in an exchange. -/
def isSeen (r : Request) (x : Exchange) : Bool := r.fault?.isNone && x.isSeen

end Request

end HubPublisher.Hub
