import HubPublisher.Event.Payload
import HubPublisher.Event.Topic
import HubPublisher.Error
import HubPublisher.Telemetry
import HubPublisher.Text.Quoted

/-!
The publishing service: one event for every registered publisher.

Publishers are called in the order in which they were registered, and the first that fails ends the
round. What a call of a publisher does is its own matter: it acts on a state that all share.
-/
namespace HubPublisher

open Event (Context Payload)
open Telemetry (Signal)

/-- What a call of a publisher leaves behind. -/
structure Publishing (σ : Type) where
  state : σ
  signals : List Signal
  result : Except Failure Unit

/-- Somebody who publishes events. -/
structure Publisher (σ : Type) where
  name : String
  publish : Payload → Context → σ → Publishing σ

/-- The registered publishers, in order. -/
structure Service (σ : Type) where
  publishers : List (Publisher σ)

namespace Service

variable {σ : Type}

def empty : Service σ := ⟨[]⟩

def names (s : Service σ) : List String := s.publishers.map (·.name)

def size (s : Service σ) : Nat := s.publishers.length

def isEmpty (s : Service σ) : Bool := s.publishers.isEmpty

/-- Puts a publisher behind those that are there. -/
def register (s : Service σ) (p : Publisher σ) : Service σ × Log.Event :=
  (⟨s.publishers ++ [p]⟩,
    Log.event .debug "Event publisher registered" [("publisher", .text p.name)])

/-- What is logged about the publisher that failed. -/
def failedEvent (name : String) (context : Context) (e : Failure) : Log.Event :=
  Log.event .error "Event publisher failed"
    [("publisher", .text name), ("tenant_domain", .text context.tenant),
      ("event_uri", .text context.eventUri), ("error", .text e.message)]

/-- Calls publishers one after the other, up to the first that fails. -/
def publishTo (payload : Payload) (context : Context) : List (Publisher σ) → σ → Publishing σ
  | [], state => ⟨state, [], .ok ()⟩
  | p :: ps, state =>
    let call := p.publish payload context state
    match call.result with
    | .error e =>
      ⟨call.state, call.signals ++ [.log (failedEvent p.name context e)], .error e⟩
    | .ok () =>
      let rest := publishTo payload context ps call.state
      ⟨rest.state, call.signals ++ rest.signals, rest.result⟩

/-- Hands an event to every publisher. -/
def publish (s : Service σ) (payload : Payload) (context : Context) (state : σ) : Publishing σ :=
  publishTo payload context s.publishers state

/-- What is logged about a service that is complete. -/
def readyEvent (s : Service σ) : Log.Event :=
  Log.event .info "Event publishers ready"
    [("publishers", .text ("[" ++ ", ".intercalate (s.names.map Text.quoted) ++ "]"))]

end Service

end HubPublisher
