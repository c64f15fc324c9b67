import HubPublisher.Adapter.Assembly
import HubPublisher.Adapter.Run
import HubPublisher.Cli.Arguments
import HubPublisher.Cli.Report
import HubPublisher.Event.File

/-!
The commands: each builds an adapter from the settings, runs one operation and reports on it.
-/
namespace HubPublisher.Cli

open Event (Context CorrelationId PayloadFile Topic)
open Hub (Operation Request TopicOutcome)
open Settings (Configuration SettingsFile)
open Telemetry (Signal)

/-- What a command finds around it. -/
structure Surroundings where
  files : Files
  /-- What the way to the hub and back brings for a request. -/
  network : Request → Hub.Exchange
  /-- The id of an event that has none of its own. -/
  freshEvent : String
  /-- The correlation id of a request that has none of its own. -/
  freshCorrelation : CorrelationId
  /-- The present time. -/
  now : Int64

namespace Report

def failed (lines : List Line) (signals : List Signal) (chain : List String) : Report :=
  ⟨lines, .failed chain, signals⟩

def done (lines : List Line) (signals : List Signal) : Report := ⟨lines, .done, signals⟩

/-- The report of an adapter that could not be built. -/
def unassembled (logs : List Log.Event) : AssemblyFault → Report
  | .uncountable => ⟨[], .crashed, logs.map .log⟩
  | .failed e => failed [] (logs.map .log) e.chain

end Report

/-! ## Checking -/

/-- Milliseconds in seconds, without zeros at the end of the fraction. -/
def seconds (ms : Nat) : String :=
  let digits := toString (1000 + ms % 1000)
  let fraction := ((digits.toList.drop 1).reverse.dropWhile (· == '0')).reverse
  toString (ms / 1000) ++ (if fraction.isEmpty then "" else "." ++ String.ofList fraction) ++ "s"

/-- A time as the report shows it. -/
def duration (ms : Nat) : String :=
  if ms = 0 then "0ns" else if ms < 1000 then toString ms ++ "ms" else seconds ms

/-- The lines about a configuration. -/
def configurationLines (c : Configuration) : List Line :=
  Line.heading "WebSub hub adapter" ++ [
    .field "Enabled" (if c.enabled then "true" else "false"),
    .field "Base URL" (c.baseUrl.getD "-"),
    .field "Connect timeout" (duration c.connectTimeout),
    .field "Read timeout" (duration c.readTimeout),
    .field "Connection wait" (duration c.checkoutTimeout),
    .field "Max connections" (toString c.maxConnections),
    .field "Max per route" (toString c.maxConnectionsPerRoute),
    .field "Trust store" (c.trustStore.getD "platform roots"),
    if c.enabled then .success "Configuration is valid"
    else .warning "Adapter is disabled; publish and topic commands will be refused"]

/-- Shows the configuration that the settings describe. -/
def check (settings : SettingsFile) : Report :=
  match settings.configuration with
  | .error e => .failed [] [] ("adapter configuration is invalid" :: (Failure.client e).chain)
  | .ok (c, warnings) => .done (configurationLines c) (warnings.map .log)

/-! ## Publishing -/

/-- The lines about a publish that was submitted. -/
def publishLines (context : Context) (id : CorrelationId) : List Line :=
  Line.heading "Publish" ++ [
    .field "Topic" context.topic.text,
    .field "Correlation id" id.text]

/-- What is reported about the end of a publish. -/
def publishEnding (lines : List Line) (signals : List Signal) : Adapter.PublishOutcome → Report
  | .delivered status =>
    .done (lines ++ [.field "Status" (toString status), .success "Event accepted by hub"]) signals
  | .rejected status body =>
    .failed (lines ++ [.field "Status" (toString status), .field "Body" body]) signals
      ["hub rejected the event"]
  | .failed reason => .failed lines signals ["event not delivered: " ++ reason]
  | .cancelled => .failed lines signals ["publish was cancelled"]

/-- How a task ended; one that did not end counts as cancelled. -/
def publishOutcome (t : Adapter.Task) (e : Adapter.Effect) : Adapter.PublishOutcome :=
  match e.ended.find? (·.task.ticket == t.ticket) with
  | some ⟨_, .published o⟩ => o
  | _ => .cancelled

/-- Publishes the event of a file and waits for the answer. -/
def publish (w : Surroundings) (settings : SettingsFile) (args : PublishArguments) : Report :=
  match PayloadFile.loadPayload w.files args.payload w.freshEvent w.now with
  | .error e => .failed [] [] (e.message :: e.cause.toList)
  | .ok payload =>
    match Adapter.ofSettings w.files settings with
    | (.error e, logs) => .unassembled logs e
    | (.ok adapter, logs) =>
      let context : Context :=
        ⟨args.topic.tenant, args.topic.eventUri, args.correlationId.map CorrelationId.mk⟩
      let s := adapter.dispatch payload context w.freshCorrelation
      let shown := logs.map Signal.log ++ s.signals
      match s.result with
      | .error e => .failed [] shown (Failure.adapter e).chain
      | .ok task =>
        let (_, effect) := s.adapter.settle w.network
        publishEnding (publishLines context task.request.correlation) (shown ++ effect.signals)
          (publishOutcome task effect)

/-! ## Topics -/

def topicTitle : Operation → String
  | .register => "Register topic"
  | _ => "Deregister topic"

def topicLines (args : TopicArguments) (operation : Operation) : List Line :=
  Line.heading (topicTitle operation) ++ [
    .field "Topic" (Topic.of args.tenant args.eventUri).text]

/-- What is reported about the end of a request about a topic. -/
def topicEnding (lines : List Line) (signals : List Signal) :
    Except AdapterError TopicOutcome → Report
  | .ok .completed => .done (lines ++ [.success "Hub accepted the request"]) signals
  | .ok (.unchanged status) =>
    .done (lines ++ [.field "Status" (toString status),
      .warning "Topic was already in the requested state"]) signals
  | .error e =>
    .failed (lines ++ [.field "Code" e.code, .error e.summary]) signals (Failure.adapter e).chain

/-- How a task ended; one that did not end counts as cancelled. -/
def topicOutcome (t : Adapter.Task) (e : Adapter.Effect) : Except AdapterError TopicOutcome :=
  match e.ended.find? (·.task.ticket == t.ticket) with
  | some ⟨_, .managed r⟩ => r
  | _ => .error (.server .cancelled)

/-- Registers or deregisters a topic and waits for the answer. -/
def manage (w : Surroundings) (settings : SettingsFile) (args : TopicArguments)
    (operation : Operation) : Report :=
  match Adapter.ofSettings w.files settings with
  | (.error e, logs) => .unassembled logs e
  | (.ok adapter, logs) =>
    let lines := topicLines args operation
    let s := adapter.manage args.eventUri args.tenant operation none w.freshCorrelation
    let shown := logs.map Signal.log ++ s.signals
    match s.result with
    | .error e => topicEnding lines shown (.error e)
    | .ok task =>
      let (_, effect) := s.adapter.settle w.network
      topicEnding lines (shown ++ effect.signals) (topicOutcome task effect)

/-! ## All -/

/-- Runs a command. -/
def Command.run (w : Surroundings) (settings : SettingsFile) : Command → Report
  | .publish args => Cli.publish w settings args
  | .register args => manage w settings args .register
  | .deregister args => manage w settings args .deregister
  | .check => Cli.check settings

end HubPublisher.Cli
