import HubPublisher.Hub.Exchange
import HubPublisher.Pool.Basic
import HubPublisher.Telemetry

/-!
Requests on their way: what a submitted request is for, how far it has come, and what is shown and
answered when it ends.

A request ends in one of three ways: the hub answered, there was no answer, or the task was dropped.
A task that was dropped before it began shows nothing; every other end shows one correlation.
-/
namespace HubPublisher.Adapter

open Event (Topic)
open Hub (Reply Request TopicOutcome)
open Pool (Ticket)
open Telemetry (Signal)

/-- What a request is for. -/
inductive Purpose where
  /-- To publish an event of a tenant. -/
  | publish (tenant : String)
  /-- To change what the hub knows about a topic. -/
  | manage
  deriving DecidableEq, Repr

/-- How far a task has come. -/
inductive Phase where
  | submitted
  /-- It waits for a slot. -/
  | waiting
  /-- It holds a slot; the request is being sent or its answer read. -/
  | active
  deriving DecidableEq, Repr

structure Task where
  ticket : Ticket
  topic : Topic
  purpose : Purpose
  request : Request
  phase : Phase

/-- What became of a publish. -/
inductive PublishOutcome where
  | delivered (status : Nat)
  | rejected (status : Nat) (body : String)
  | failed (reason : String)
  | cancelled
  deriving DecidableEq, Repr

def PublishOutcome.isDelivered : PublishOutcome → Bool
  | delivered _ => true
  | _ => false

/-- What the caller of a task is told. -/
inductive Outcome where
  | published (o : PublishOutcome)
  | managed (r : Except AdapterError TopicOutcome)

namespace Task

/-! ## Records -/

def publishingMessage : String := "Publishing event data to WebSubHub."
def publishedMessage : String := "Event data published to WebSubHub."
def publishFailedMessage : String := "Failed to publish event data to WebSubHub."

/-- A diagnostic about a publish for a tenant. -/
def diagnostic (t : Task) (tenant : String) (succeeded : Bool) (message : String) : Signal :=
  .diagnostic ⟨t.request.url.write, tenant, t.topic, succeeded, message⟩

/-- The correlation of a request that the hub answered. -/
def responded (t : Task) (status : Hub.RequestStatus) (r : Reply) : Signal :=
  .correlation ⟨t.request.correlation, Telemetry.postMethod, t.request.url.write, status,
    some r.status, r.phrase, none⟩

/-- The correlation of a request without an answer. -/
def unanswered (t : Task) (status : Hub.RequestStatus) (e : ServerError) : Signal :=
  .correlation ⟨t.request.correlation, Telemetry.postMethod, t.request.url.write, status,
    none, none, some e.message⟩

/-! ## Log events -/

def topicField (t : Task) : String × Log.FieldValue := ("topic", .text t.topic.text)

def operationField (t : Task) : String × Log.FieldValue :=
  ("operation", .text t.request.operation.name)

/-- What is logged when a task is submitted. -/
def announcement (t : Task) : List Signal :=
  match t.purpose with
  | .publish tenant => [
      t.diagnostic tenant true publishingMessage,
      .log (Log.event .debug "Publishing event to hub"
        [("url", .text t.request.url.write), ("tenant_domain", .text tenant), t.topicField,
          ("correlation_id", .text t.request.correlation.text)])]
  | .manage => [
      .log (Log.event .debug "Sending topic request to hub"
        [t.topicField, t.operationField,
          ("correlation_id", .text t.request.correlation.text)])]

def hubResponded (r : Reply) : Signal :=
  .log (Log.event .debug "Hub responded"
    [("status", .number r.status), ("bytes", .number r.body.utf8ByteSize)])

/-- What is logged about the answer to a request about a topic. -/
def verdictEvent (t : Task) (r : Reply) : Except AdapterError TopicOutcome → Log.Event
  | .ok .completed =>
    Log.event .debug "Hub accepted topic operation" [t.topicField, t.operationField]
  | .ok (.unchanged _) =>
    Log.event .warn "Topic already in requested state"
      [t.topicField, t.operationField, ("status", .number r.status), ("body", .text r.body)]
  | .error (.client (.activeSubscribers _ count)) =>
    Log.event .info "Topic deregistration refused, topic has active subscribers"
      [t.topicField, ("active_subscribers", .text count)]
  | .error e =>
    Log.event .error "Hub rejected topic operation"
      [t.topicField, t.operationField, ("status", .number r.status), ("code", .text e.code),
        ("error", .text e.message)]

/-! ## Ends -/

/-- The hub answered. -/
def answered (t : Task) (r : Reply) : List Signal × Outcome :=
  match t.purpose with
  | .publish tenant =>
    let fields := [t.topicField, ("status", .number r.status), ("body", .text r.body)]
    if Hub.isPublished r.status then
      ([hubResponded r, t.responded .completed r,
          .log (Log.event .debug "Event published to hub" fields),
          t.diagnostic tenant true publishedMessage],
        .published (.delivered r.status))
    else
      ([hubResponded r, t.responded .completed r,
          .log (Log.event .error "Hub rejected published event" fields),
          t.diagnostic tenant false publishFailedMessage],
        .published (.rejected r.status r.body))
  | .manage =>
    let verdict := Hub.classify r.status r.body t.topic t.request.operation
    ([hubResponded r, t.responded verdict.status r, .log (t.verdictEvent r verdict.result)],
      .managed verdict.result)

/-- There was no answer. -/
def failed (t : Task) (e : ServerError) : List Signal × Outcome :=
  match t.purpose with
  | .publish tenant =>
    ([t.unanswered .failed e,
        .log (Log.event .error "Publishing event to hub failed"
          [t.topicField, ("error", .text e.message)]),
        t.diagnostic tenant false publishFailedMessage],
      .published (.failed e.message))
  | .manage =>
    ([t.unanswered .failed e,
        .log (Log.event .error "Topic request to hub failed"
          [t.topicField, t.operationField, ("error", .text e.message)])],
      .managed (.error (.server e)))

/-- The task was dropped. -/
def dropped (t : Task) : List Signal × Outcome :=
  (match t.phase with
    | .submitted => []
    | _ => [t.unanswered .cancelled .cancelled],
    match t.purpose with
    | .publish _ => .published .cancelled
    | .manage => .managed (.error (.server .cancelled)))

end Task

end HubPublisher.Adapter
