import HubPublisher.Adapter.Task
import HubPublisher.Hub.Connections

/-!
The adapter to a hub: its configuration, its connections and the requests on their way.

A call is refused if the adapter is disabled, has no base URL, or has one that is no URL; a refused
call submits nothing and leaves the client as it is. Otherwise the client is started if need be and
a task is submitted.
-/
namespace HubPublisher

open Event (Context CorrelationId Payload Topic)
open Hub (Connections Operation Request StartFault)
open Settings (Configuration)
open Telemetry (Signal)

structure Adapter where
  config : Configuration
  connections : Connections
  /-- The base URL, once it has been asked for. -/
  baseUrl : Option String
  /-- The requests that have not ended, in the order in which they were submitted. -/
  tasks : List Adapter.Task
  /-- The ticket of the next task. -/
  next : Pool.Ticket

namespace Adapter

/-! ## Starting -/

def startedEvent (config : Configuration) : Log.Event :=
  Log.event .info "WebSub hub adapter started"
    [("enabled", .flag config.enabled), ("base_url", .text (config.baseUrl.getD "-"))]

/-- An adapter that checks the hub against the given certificates. -/
def startWith (config : Configuration) (trust : Trust.Store) :
    Except StartFault (Adapter × List Log.Event) :=
  match Connections.start config trust with
  | .error e => .error e
  | .ok (connections, logs) =>
    .ok (⟨config, connections, none, [], 0⟩, logs ++ [startedEvent config])

/-- The certificates that a configuration names; a disabled adapter needs none. -/
def trustOf (files : Files) (config : Configuration) : Except ServerError Trust.Store :=
  match config.trustStore with
  | some path => if config.enabled then Trust.Store.ofFile files path else .ok Trust.Store.platform
  | none => .ok Trust.Store.platform

/-- An adapter as its configuration says. -/
def start (files : Files) (config : Configuration) : Except StartFault (Adapter × List Log.Event) :=
  match trustOf files config with
  | .error e => .error (.refused e)
  | .ok trust => startWith config trust

/-- A disabled adapter whose client does not run. -/
def disabled : Adapter where
  config := Configuration.disabled
  connections := {
    config := Configuration.disabled
    trust := Trust.Store.platform
    running := false
    slots := Pool.Slots.start (Connections.limitsOf Configuration.disabled) }
  baseUrl := none
  tasks := []
  next := 0

instance : Inhabited Adapter := ⟨disabled⟩

/-- Stops the client. The next request starts it again. -/
def stop (a : Adapter) : Adapter × List Signal :=
  let (connections, logs) := a.connections.stop
  ({ a with connections := connections }, logs.map .log)

/-! ## Calls -/

/-- What comes of a call: what it shows, and what it submitted or why it was refused. -/
structure Submission where
  adapter : Adapter
  signals : List Signal
  result : Except AdapterError Task

/-- The base URL that a configuration sets, unless it is blank. -/
def configuredBaseUrl (config : Configuration) : Option String :=
  match config.baseUrl with
  | some url => if Text.isBlank url then none else some (Text.trim url)
  | none => none

/-- The base URL, which is remembered from the first time on. -/
def resolve (a : Adapter) : Adapter × List Signal × Option String :=
  match a.baseUrl with
  | some url => (a, [], some url)
  | none =>
    match configuredBaseUrl a.config with
    | none => (a, [], none)
    | some url =>
      ({ a with baseUrl := some url },
        [.log (Log.event .debug "Resolved hub base URL" [("base_url", .text url)])], some url)

/-- Submits a task for a request that is made from its URL. -/
def submit (a : Adapter) (topic : Topic) (operation : Operation) (purpose : Purpose)
    (request : Url → Request) : Submission :=
  if !a.config.enabled then ⟨a, [], .error (.client .adapterDisabled)⟩
  else
    match a.resolve with
    | (a, signals, none) => ⟨a, signals, .error (.client .baseUrlNotConfigured)⟩
    | (a, signals, some baseUrl) =>
      match Hub.topicUrl topic baseUrl operation with
      | .error e => ⟨a, signals, .error (.server e)⟩
      | .ok url =>
        match a.connections.ensureRunning with
        | (.error e, logs) => ⟨a, signals ++ logs.map .log, .error (.server e)⟩
        | (.ok connections, logs) =>
          let task : Task := ⟨a.next, topic, purpose, request url, .submitted⟩
          ⟨{ a with connections := connections, tasks := a.tasks ++ [task], next := a.next + 1 },
            signals ++ logs.map .log ++ task.announcement, .ok task⟩

/-- Submits a publish. The fresh id is used if the context has none. -/
def dispatch (a : Adapter) (payload : Payload) (context : Context) (fresh : CorrelationId) :
    Submission :=
  a.submit context.topic .publish (.publish context.tenant) fun url =>
    Request.publish url payload fresh context.correlation

/-- Submits a request about a topic. -/
def manage (a : Adapter) (eventUri tenant : String) (operation : Operation)
    (correlation : Option CorrelationId) (fresh : CorrelationId) : Submission :=
  a.submit (Topic.of tenant eventUri) operation .manage fun url =>
    Request.topic url operation fresh correlation

/-- What is logged about a publish that was refused. -/
def refusedEvent (context : Context) (e : AdapterError) : Log.Event :=
  Log.event .warn "Event not published"
    [("tenant_domain", .text context.tenant), ("event_uri", .text context.eventUri),
      ("code", .text e.code), ("error", .text e.message)]

/-- Submits a publish and does not wait for it. -/
def publish (a : Adapter) (payload : Payload) (context : Context) (fresh : CorrelationId) :
    Submission :=
  let s := a.dispatch payload context fresh
  match s.result with
  | .ok _ => s
  | .error e => { s with signals := s.signals ++ [.log (refusedEvent context e)] }

end Adapter

end HubPublisher
